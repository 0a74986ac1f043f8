/-
  ShuttleDesk/Proofs/Flight/Naming.lean
  =====================================
  Which flight numbers the provider can be asked about.  The number is written into the
  address as it is, and the address is read afterwards: blanks at its end, tabs and line
  ends are dropped, slashes divide it, dots climb, and what follows a `?` or a `#` does
  not belong to the path.  What is left is encoded, but escapes in it are taken for what
  they stand for.

  So a number is asked for exactly if nothing of this happens to it.  Every reader takes
  something away or leaves the text alone, and decoding makes no text longer; so once
  something is lost, nothing brings it back.
-/
import Mathlib.Data.List.Flatten
import Mathlib.Data.List.TakeWhile
import ShuttleDesk.Proofs.Desk.Sound
import ShuttleDesk.Proofs.Flight.Reading
import ShuttleDesk.Proofs.Text.Escapes

namespace ShuttleDesk.Flight.Address

open Desk

variable {s t : List Char} {b : Address}

/-! ### What reading leaves alone -/

theorem dropWhile_eq_self_iff {p : Char → Bool} :
    s.dropWhile p = s ↔ ∀ c, s.head? = some c → p c = false := by
  rw [List.dropWhile_eq_self_iff]
  cases s <;> simp

theorem stripped_sublist (s : List Char) : (s.reverse.dropWhile isEdge).reverse.Sublist s := by
  simpa using (List.dropWhile_sublist (l := s.reverse) isEdge).reverse

theorem trailing_eq_self_iff : trailing s = s ↔
    (∀ c, s.getLast? = some c → isEdge c = false) ∧ ∀ c ∈ s, isKept c = true := by
  have hends : (s.reverse.dropWhile isEdge).reverse = s ↔
      ∀ c, s.getLast? = some c → isEdge c = false := by
    rw [List.reverse_eq_iff, dropWhile_eq_self_iff, List.getLast?_eq_head?_reverse]
  constructor
  · intro h
    have hself : (s.reverse.dropWhile isEdge).reverse = s := by
      apply (stripped_sublist s).antisymm
      conv => lhs; rw [← h]
      exact List.filter_sublist
    rw [trailing, hself, List.filter_eq_self] at h
    exact ⟨hends.1 hself, h⟩
  · rintro ⟨hlast, hkept⟩
    rw [trailing, hends.2 hlast, List.filter_eq_self]
    exact hkept

theorem beforeQuery_eq_self_iff : beforeQuery s = s ↔ '?' ∉ s ∧ '#' ∉ s := by
  constructor
  · intro h
    have hfragment : s.takeWhile (· ≠ '#') = s := by
      apply (List.takeWhile_sublist _).antisymm
      conv => lhs; rw [← h]
      exact List.takeWhile_sublist _
    rw [beforeQuery, hfragment, List.takeWhile_eq_self_iff] at h
    rw [List.takeWhile_eq_self_iff] at hfragment
    exact ⟨fun hc => of_decide_eq_true (h _ hc) rfl,
      fun hc => of_decide_eq_true (hfragment _ hc) rfl⟩
  · rintro ⟨hquery, hfragment⟩
    have hself := beforeQuery_append hquery hfragment []
    rw [List.append_nil] at hself
    exact hself.trans (List.append_nil s)

theorem beforeQuery_sublist (s : List Char) : (beforeQuery s).Sublist s :=
  (List.takeWhile_sublist _).trans (List.takeWhile_sublist _)

theorem trailing_sublist (s : List Char) : (trailing s).Sublist s :=
  List.filter_sublist.trans (stripped_sublist s)

theorem mem_segments (h : t ∈ segments s) : t.Sublist s ∧ ∀ c ∈ t, isSlash c = false := by
  induction s generalizing t with
  | nil =>
    rw [List.mem_singleton.1 h]
    exact ⟨List.Sublist.refl _, nofun⟩
  | cons c s ih =>
    rw [segments] at h
    split at h
    case isTrue =>
      rcases List.mem_cons.1 h with rfl | h
      · exact ⟨List.nil_sublist _, nofun⟩
      · exact ⟨(ih h).1.cons c, (ih h).2⟩
    case isFalse hc =>
      obtain ⟨first, rest, hs⟩ := exists_segments s
      rw [hs] at h ih
      rcases List.mem_cons.1 h with rfl | h
      · obtain ⟨hsublist, hslash⟩ := ih List.mem_cons_self
        refine ⟨hsublist.cons_cons c, ?_⟩
        rw [List.forall_mem_cons]
        exact ⟨Bool.eq_false_iff.2 hc, hslash⟩
      · obtain ⟨hsublist, hslash⟩ := ih (List.mem_cons_of_mem _ h)
        exact ⟨hsublist.cons c, hslash⟩

theorem segments_eq_self (h : ∀ c ∈ s, isSlash c = false) : segments s = [s] := by
  induction s with
  | nil => rfl
  | cons c s ih =>
    obtain ⟨hc, hs⟩ := List.forall_mem_cons.1 h
    rw [segments, ih hs, hc]
    rfl

theorem dropDot_eq_some_iff : dropDot s = some t ↔
    s = '.' :: t ∨ s = '%' :: '2' :: 'e' :: t ∨ s = '%' :: '2' :: 'E' :: t := by
  constructor
  · intro h
    unfold dropDot at h
    split at h <;> simp_all
  · rintro (rfl | rfl | rfl) <;> rfl

/-! ### Numbers that can be named -/

/-- A text that stands for itself as a segment: reading an address takes nothing from it and
divides it nowhere, it is no dot segment, and nothing in it can be taken for an escape. -/
structure IsNameable (s : List Char) : Prop where
  ends : ∀ c, s.getLast? = some c → isEdge c = false
  whole : ∀ c ∈ s, isKept c = true ∧ endsAuthority c = false
  noDots : s ≠ ['.'] ∧ s ≠ ['.', '.']
  noEscape : Percent.hasEscape (Utf8.encode s) = false

theorem isNameable_nil : IsNameable [] where
  ends := nofun
  whole := nofun
  noDots := by decide
  noEscape := rfl

theorem IsNameable.not_dots (h : IsNameable s) : isDoubleDot s = false ∧ isSingleDot s = false := by
  have hescape := h.noEscape
  constructor
  · by_contra hdots
    rw [Bool.not_eq_false, isDoubleDot, beq_iff_eq, Option.bind_eq_some_iff] at hdots
    obtain ⟨t, hs, ht⟩ := hdots
    rw [dropDot_eq_some_iff] at hs ht
    rcases ht with rfl | rfl | rfl <;> rcases hs with rfl | rfl | rfl
    case inl.inl => exact h.noDots.2 rfl
    all_goals exact absurd hescape (by decide)
  · by_contra hdot
    rw [Bool.not_eq_false, isSingleDot, beq_iff_eq, dropDot_eq_some_iff] at hdot
    rcases hdot with rfl | rfl | rfl
    · exact h.noDots.1 rfl
    all_goals exact absurd hescape (by decide)

theorem isTransparent_plainInPath : Percent.IsTransparent plainInPath where
  ascii := by
    intro b hb
    simp only [plainInPath, isPlainBut, Bool.and_eq_true, decide_eq_true_eq] at hb
    omega
  percent := by decide +kernel
  hex := by
    have hall : ∀ n < 256, (Percent.hexValue? (UInt8.ofNat n)).isSome = true →
        plainInPath (UInt8.ofNat n) = true := by decide +kernel
    intro b hb
    have hself : UInt8.ofNat b.toNat = b := by simp
    rw [← hself] at hb ⊢
    exact hall _ b.toNat_lt hb

/-- What is left of a text is the text. -/
theorem IsNameable.stays (h : IsNameable s) : trailing s = s ∧ beforeQuery s = s ∧
    queryOf s = none ∧ segments s = [s] := by
  have hends : ∀ {c}, c ∈ s → endsAuthority c ≠ true :=
    fun hc => Bool.eq_false_iff.1 (h.whole _ hc).2
  have hquery : '?' ∉ s := fun hc => hends hc rfl
  have hfragment : '#' ∉ s := fun hc => hends hc rfl
  refine ⟨trailing_eq_self_iff.2 ⟨h.ends, fun c hc => (h.whole c hc).1⟩,
    beforeQuery_eq_self_iff.2 ⟨hquery, hfragment⟩, ?_, segments_eq_self fun c hc => ?_⟩
  · have hnone := queryOf_append hquery hfragment []
    rw [List.append_nil] at hnone
    exact hnone
  · have hc' := (h.whole c hc).2
    simp only [endsAuthority, Bool.or_eq_false_iff] at hc'
    exact hc'.1.1

/-- A number is nameable if it comes back from what becomes of the last segment. -/
theorem isNameable_of_decoded (hs : t ∈ segments (beforeQuery (trailing s)))
    (h : Percent.decode (Utf8.encode (lastOf t)) = Utf8.encode s) : IsNameable s := by
  rw [lastOf] at h
  split at h
  case isTrue =>
    -- a dot segment leaves nothing
    have hnil : [] = s := Utf8.encode_inj.1 h
    exact hnil ▸ isNameable_nil
  case isFalse hdots =>
    rw [Percent.decode_encode isTransparent_plainInPath] at h
    -- each reader takes something away, and decoding does not make it longer
    have hsublist : t.Sublist (beforeQuery (trailing s)) := (mem_segments hs).1
    have hbefore : (beforeQuery (trailing s)).Sublist (trailing s) := beforeQuery_sublist _
    have htrailing : (trailing s).Sublist s := trailing_sublist s
    have hwhole : t = s := by
      have hbytes : (Utf8.encode t).Sublist (Utf8.encode s) :=
        (hsublist.trans (hbefore.trans htrailing)).flatMap _
      have hlength := Percent.length_decode_le (Utf8.encode t)
      rw [h] at hlength
      exact Utf8.encode_inj.1 (hbytes.eq_of_length_le hlength)
    subst hwhole
    have hself : trailing t = t := htrailing.antisymm (hsublist.trans hbefore)
    rw [hself] at hsublist hbefore
    obtain ⟨hends, hkept⟩ := trailing_eq_self_iff.1 hself
    obtain ⟨hquery, hfragment⟩ := beforeQuery_eq_self_iff.1 (hbefore.antisymm hsublist)
    constructor
    case ends => exact hends
    case whole =>
      intro c hc
      refine ⟨hkept c hc, ?_⟩
      rw [endsAuthority, (mem_segments hs).2 c hc, Bool.false_or, Bool.or_eq_false_iff]
      exact ⟨decide_eq_false fun heq => hquery (heq ▸ hc),
        decide_eq_false fun heq => hfragment (heq ▸ hc)⟩
    case noDots =>
      constructor
      · rintro rfl
        exact hdots rfl
      · rintro rfl
        exact hdots rfl
    case noEscape => exact (Percent.decode_eq_self_iff _).1 h

/-! ### Asking for a number -/

/-- The address below a base that asks about a segment on a day, and nothing else. -/
def asking (b : Address) (segment : List Char) (date : Calendar.Date) : Address :=
  { b with
    path := b.path.dropLast ++ ["flights".toList, segment]
    query := some ("date=".toList ++ Percent.encode plainInPair date.chars) }

/-- One segment, and what comes back from it is the number. -/
structure Names (segment : List Char) (flightNo : String) : Prop where
  noSlash : '/' ∉ segment
  noQuery : '?' ∉ segment
  noFragment : '#' ∉ segment
  decoded : Percent.decode (Utf8.encode segment) = Utf8.ofString flightNo

theorem IsNameable.names {flightNo : String} (h : IsNameable flightNo.toList) :
    Names (Percent.encode plainInPath flightNo.toList) flightNo := by
  have hends : ∀ {c}, endsAuthority c = true → c ∉ "%0123456789ABCDEF".toList →
      c ∉ Percent.encode plainInPath flightNo.toList := by
    intro c hc hescape hmem
    rcases Percent.mem_encode isTransparent_plainInPath hmem with hmem | hmem
    · exact hescape hmem
    · rw [(h.whole c hmem).2] at hc
      cases hc
  exact {
    noSlash := hends rfl (by decide)
    noQuery := hends rfl (by decide)
    noFragment := hends rfl (by decide)
    decoded := by
      rw [Percent.decode_encode isTransparent_plainInPath]
      exact (Percent.decode_eq_self_iff _).2 h.noEscape }

/-- What is sent to the host then. -/
theorem target_asking (b : Address) (segment : List Char) (date : Calendar.Date) :
    (b.asking segment date).target = b.path.dropLast.flatMap (fun s => '/' :: s) ++
      ("/flights/".toList ++ (segment ++ '?' ::
        ("date=".toList ++ Percent.encode plainInPair date.chars))) := by
  simp [target, asking, pathChars]

theorem segment_eq_of_target_eq {p q : List Char} {d e : Calendar.Date} (hp : '?' ∉ p)
    (hq : '?' ∉ q) (h : (b.asking p d).target = (b.asking q e).target) : p = q := by
  have hsegment : ∀ {p}, '?' ∉ p → ∀ t, (p ++ '?' :: t).takeWhile (· ≠ '?') = p := by
    intro p hp t
    rw [takeWhile_append_cons rfl, List.takeWhile_eq_self_iff]
    exact fun c hc => decide_eq_true fun heq => hp (heq ▸ hc)
  rw [target_asking, target_asking] at h
  rw [← hsegment hp, List.append_cancel_left (List.append_cancel_left h), hsegment hq]

theorem withPair_date {a : Address} (h : a.query = none) (date : Calendar.Date) :
    a.withPair "date".toList date.chars =
      { a with query := some ("date=".toList ++ Percent.encode plainInPair date.chars) } := by
  have hname : Percent.encode plainInPair "date".toList ++ ['='] = "date=".toList := by
    decide +kernel
  rw [withPair, h, hname]

/-- A number that stands for itself is asked for. -/
theorem IsBase.address_of_isNameable {base flightNo : String} (h : IsBase base.toList b)
    (hf : IsNameable flightNo.toList) (date : Calendar.Date) :
    addressFor? base flightNo date
      = some (b.asking (Percent.encode plainInPath flightNo.toList) date) := by
  obtain ⟨before, hpath, haddress⟩ := h.exists_before
  obtain ⟨htrailing, hpart, hquery, hsegments⟩ := hf.stays
  obtain ⟨hdouble, hsingle⟩ := hf.not_dots
  have hlast : lastOf flightNo.toList = Percent.encode plainInPath flightNo.toList := by
    rw [lastOf, hdouble, hsingle]
    rfl
  rw [addressFor?, haddress, htrailing, hpart, hquery, withPair_date rfl, hsegments, resolve_last,
    hdouble, hlast, asking, hpath, List.dropLast_concat]
  simp

/-- A number that is asked for stands for itself. -/
theorem IsBase.isNameable_of_address {base flightNo : String} {date : Calendar.Date}
    {segment : List Char} (h : IsBase base.toList b) (hnames : Names segment flightNo)
    (ha : addressFor? base flightNo date = some (b.asking segment date)) :
    IsNameable flightNo.toList := by
  obtain ⟨before, -, haddress⟩ := h.exists_before
  rw [addressFor?, haddress, Option.some.injEq] at ha
  obtain ⟨t, ht, hlast⟩ := exists_getLast?_resolve ("flights".toList :: before)
    (beforeQuery (trailing flightNo.toList))
  have hsegment : segment = lastOf t := by
    have hpath : (b.asking segment date).path.getLast? = some (lastOf t) := by
      rw [← ha]
      exact hlast
    have hself : (b.asking segment date).path.getLast? = some segment := by simp [asking]
    exact Option.some.inj (hself.symm.trans hpath)
  exact isNameable_of_decoded ht (hsegment ▸ hnames.decoded)

/-- The addresses that are asked about flights, below a base without a query or a fragment.  Every
number makes one, and a lookup asks there; it is on the host of the base.  What is asked there is
about the number, if and only if the number stands for itself as a segment; and numbers of that
kind are not confused, whatever the days. -/
theorem address_names_iff (base flightNo : String) (b : Address) (date : Calendar.Date)
    (h : IsBase base.toList b) :
    (∃ a, addressFor? base flightNo date = some a ∧
      (∀ network, lookup network base flightNo date = .ofReply flightNo date (network a)) ∧
      (a.secure = b.secure ∧ a.host = b.host ∧ a.port = b.port) ∧
      ((∃ segment, Names segment flightNo ∧ a = b.asking segment date) ↔
        IsNameable flightNo.toList)) ∧
    ∀ other day, IsNameable flightNo.toList → IsNameable other.toList →
      (addressFor? base flightNo date).map target = (addressFor? base other day).map target →
      flightNo = other := by
  constructor
  · obtain ⟨before, -, haddress⟩ := h.exists_before
    refine ⟨_, haddress _ _, ?_, ⟨rfl, rfl, rfl⟩, ?_, ?_⟩
    · intro network
      rw [lookup, addressFor?, haddress]
    · rintro ⟨segment, hnames, ha⟩
      exact h.isNameable_of_address hnames ((haddress _ _).trans (congrArg some ha))
    · intro hf
      refine ⟨_, hf.names, ?_⟩
      exact Option.some.inj ((haddress _ _).symm.trans (h.address_of_isNameable hf date))
  · intro other day hf hother htarget
    rw [h.address_of_isNameable hf, h.address_of_isNameable hother] at htarget
    have hsegment := segment_eq_of_target_eq hf.names.noQuery hother.names.noQuery
      (Option.some.inj htarget)
    have hbytes : Utf8.ofString flightNo = Utf8.ofString other := by
      rw [← hf.names.decoded, hsegment, hother.names.decoded]
    exact String.toList_inj.1 (Utf8.encode_inj.1 hbytes)

/-- The address of the provider of the small desk. -/
def smallBase : Address := ⟨false, "flights", 80, [[]], none⟩

theorem isBase_smallBase : IsBase "http://flights".toList smallBase where
  parsed := by decide +kernel
  noQuery := by decide
  noFragment := by decide

/-- Blanks inside, percent signs and other letters do not harm a number. -/
theorem address_names_odd_number :
    IsBase "http://flights".toList smallBase ∧ IsNameable "Ä %1".toList ∧
    ∃ segment, Names segment "Ä %1" ∧
      addressFor? "http://flights" "Ä %1" arrivalDay = some (smallBase.asking segment arrivalDay) := by
  have hwhole : "Ä %1".toList.all (fun c => isKept c && !endsAuthority c) = true := by
    decide +kernel
  have hf : IsNameable "Ä %1".toList := {
    ends := by
      rintro c ⟨⟩
      rfl
    whole := by
      intro c hc
      simpa using List.all_eq_true.1 hwhole c hc
    noDots := by decide
    noEscape := by decide +kernel }
  obtain ⟨⟨a, ha, -, -, hnames⟩, -⟩ :=
    address_names_iff "http://flights" "Ä %1" smallBase arrivalDay isBase_smallBase
  obtain ⟨segment, hsegment, rfl⟩ := hnames.2 hf
  exact ⟨isBase_smallBase, hf, segment, hsegment, ha⟩

/-- A number with a `#` is taken, and the provider is asked about the flight of another number. -/
theorem other_flight_is_asked :
    let w := worldAfter 0 [.undisturbed
      (.createRequest 1 ⟨"CA1#", "2026-03-01", "T5", 1, 2, "2026-03-01 10:00:00"⟩)] smallDesk
    w.tables.requests.map (·.flightNo) = ["CA1#"] ∧
    IsBase "http://flights".toList smallBase ∧
    addressFor? "http://flights" "CA1#" arrivalDay = addressFor? "http://flights" "CA1" arrivalDay ∧
    ¬ ∃ segment, Names segment "CA1#" ∧
      addressFor? "http://flights" "CA1#" arrivalDay
        = some (smallBase.asking segment arrivalDay) := by
  intro w
  refine ⟨by decide +kernel, isBase_smallBase, by decide +kernel, ?_⟩
  rintro ⟨segment, hnames, ha⟩
  have hf := isBase_smallBase.isNameable_of_address hnames ha
  exact absurd (hf.whole '#' (by decide)).2 (by decide)

end ShuttleDesk.Flight.Address
