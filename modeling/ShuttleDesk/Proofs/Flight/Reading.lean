/-
  ShuttleDesk/Proofs/Flight/Reading.lean
  ======================================
  How an address is read that goes on behind a base.  Each reader stops at a slash or
  passes over it, so the readers divide a text at a slash into what they make of either
  side: the base decides scheme, host and port and how the path begins, whatever comes
  after it.
-/
import Mathlib.Data.List.Basic
import Mathlib.Tactic.SplitIfs
import ShuttleDesk.Flight.Lookup

namespace ShuttleDesk.Flight.Address

variable {base s t : List Char}

/-! ### Cleaning -/

/-- The character is no tab and does not end a line. -/
def isKept (c : Char) : Bool := c ≠ '\t' && c ≠ '\n' && c ≠ '\r'

/-- What cleaning leaves of a beginning. -/
def leading (s : List Char) : List Char := (s.dropWhile isEdge).filter isKept

/-- What cleaning leaves of an end. -/
def trailing (s : List Char) : List Char := (s.reverse.dropWhile isEdge).reverse.filter isKept

theorem dropWhile_append_cons {p : Char → Bool} {c : Char} (hc : p c = false) (s t : List Char) :
    (s ++ c :: t).dropWhile p = s.dropWhile p ++ c :: t := by
  rw [List.dropWhile_append, List.dropWhile_cons_of_neg (by simp [hc])]
  split
  case isTrue hempty => rw [List.isEmpty_iff.1 hempty, List.nil_append]
  case isFalse => rfl

theorem takeWhile_append_cons {p : Char → Bool} {c : Char} (hc : p c = false) (s t : List Char) :
    (s ++ c :: t).takeWhile p = s.takeWhile p := by
  rw [List.takeWhile_append, List.takeWhile_cons_of_neg (by simp [hc]), List.append_nil]
  split
  case isTrue hlength => exact ((List.takeWhile_prefix p).eq_of_length hlength).symm
  case isFalse => rfl

theorem drop_length_takeWhile (p : Char → Bool) (s : List Char) :
    s.drop (s.takeWhile p).length = s.dropWhile p := by
  conv => lhs; arg 2; rw [← List.takeWhile_append_dropWhile (p := p) (l := s)]
  exact List.drop_left

theorem trailing_append_slash (s t : List Char) :
    trailing (s ++ '/' :: t) = s.filter isKept ++ '/' :: trailing t := by
  have hreverse : (s ++ '/' :: t).reverse = t.reverse ++ '/' :: s.reverse := by simp
  rw [trailing, hreverse, dropWhile_append_cons rfl, List.reverse_append, List.reverse_cons,
    List.reverse_reverse, List.filter_append, List.filter_append, List.append_assoc]
  rfl

theorem cleaned_append_slash (s t : List Char) :
    cleaned (s ++ '/' :: t) = leading s ++ '/' :: trailing t := by
  rw [cleaned, dropWhile_append_cons rfl]
  exact trailing_append_slash (s.dropWhile isEdge) t

/-! ### Reading -/

theorem scheme?_append_slash (s t : List Char) :
    scheme? (s ++ '/' :: t) = (scheme? s).map fun p => (p.1, p.2 ++ '/' :: t) := by
  have hname := takeWhile_append_cons (p := inScheme) (c := '/') rfl s t
  rw [scheme?, scheme?, drop_length_takeWhile, drop_length_takeWhile,
    dropWhile_append_cons rfl, hname]
  cases s.dropWhile inScheme with
  | nil => rfl
  | cons c rest =>
    by_cases hc : c = ':'
    · subst hc
      rfl
    · simp [hc]

/-- Whether the scheme is the secure one of the two. -/
def secure? (scheme : List Char) : Option Bool :=
  if scheme = "http".toList then some false
  else if scheme = "https".toList then some true
  else none

/-- What stands before a query and a fragment. -/
def beforeQuery (s : List Char) : List Char := (s.takeWhile (· ≠ '#')).takeWhile (· ≠ '?')

/-- The query, encoded. -/
def queryOf (s : List Char) : Option (List Char) :=
  match (s.takeWhile (· ≠ '#')).dropWhile (· ≠ '?') with
  | [] => none
  | _ :: q => some (Percent.encode plainInQuery q)

/-- The part that names the host. -/
def authorityOf (s : List Char) : List Char := s.takeWhile (!endsAuthority ·)

/-- What follows the part that names the host. -/
def placeOf (s : List Char) : List Char := s.dropWhile (!endsAuthority ·)

/-- Reads what follows the slashes after the scheme. -/
def located? (s : List Char) (secure : Bool) : Option Address :=
  (authority? (if secure then 443 else 80) (authorityOf s)).map fun p =>
    { secure, host := p.1, port := p.2, path := pathOf (beforeQuery (placeOf s)),
      query := queryOf (placeOf s) }

/-- An address is read part by part. -/
theorem parse?_eq (s : List Char) : parse? s =
    (scheme? (cleaned s)).bind fun p => (secure? p.1).bind (located? (p.2.dropWhile isSlash)) := by
  rw [parse?]
  cases scheme? (cleaned s) with
  | none => rfl
  | some p =>
    simp only [Option.bind_eq_bind, Option.bind_some, Option.pure_def, drop_length_takeWhile,
      secure?]
    by_cases hhttp : p.1 = "http".toList
    · simp only [if_pos hhttp, Option.bind_some, located?, Option.map_eq_bind]
      rfl
    by_cases hhttps : p.1 = "https".toList
    · simp only [if_neg hhttp, if_pos hhttps, Option.bind_some, located?, Option.map_eq_bind]
      rfl
    · simp only [if_neg hhttp, if_neg hhttps, Option.bind_none]

theorem sublist_of_scheme? {p : List Char × List Char} (h : scheme? s = some p) :
    p.2.Sublist s := by
  rw [scheme?, drop_length_takeWhile] at h
  split at h
  case h_1 rest hrest =>
    cases h
    have hdrop : (':' :: rest).Sublist s := hrest ▸ List.dropWhile_sublist _
    exact (List.sublist_cons_self _ _).trans hdrop
  case h_2 => cases h

theorem beforeQuery_append (hquery : '?' ∉ s) (hfragment : '#' ∉ s) (t : List Char) :
    beforeQuery (s ++ t) = s ++ beforeQuery t := by
  rw [beforeQuery, List.takeWhile_append_of_pos, List.takeWhile_append_of_pos, ← beforeQuery]
  · intro c hc
    exact decide_eq_true fun heq => hquery (heq ▸ hc)
  · intro c hc
    exact decide_eq_true fun heq => hfragment (heq ▸ hc)

theorem queryOf_append (hquery : '?' ∉ s) (hfragment : '#' ∉ s) (t : List Char) :
    queryOf (s ++ t) = queryOf t := by
  rw [queryOf, List.takeWhile_append_of_pos, List.dropWhile_append_of_pos, ← queryOf]
  · intro c hc
    exact decide_eq_true fun heq => hquery (heq ▸ hc)
  · intro c hc
    exact decide_eq_true fun heq => hfragment (heq ▸ hc)

/-! ### Paths -/

theorem exists_segments (s : List Char) : ∃ t rest, segments s = t :: rest := by
  cases s with
  | nil => exact ⟨[], [], rfl⟩
  | cons c s =>
    rw [segments]
    split
    case isTrue => exact ⟨_, _, rfl⟩
    case isFalse => split <;> exact ⟨_, _, rfl⟩

theorem segments_append_slash (s t : List Char) :
    segments (s ++ '/' :: t) = segments s ++ segments t := by
  induction s with
  | nil => rfl
  | cons c s ih =>
    rw [List.cons_append, segments, segments, ih]
    split
    case isTrue => rfl
    case isFalse =>
      obtain ⟨first, rest, hs⟩ := exists_segments s
      rw [hs]
      rfl

/-- The segments so far of a path that goes on. -/
def frontOf : List Char → List (List Char)
  | [] => []
  | _ :: s => segments s

theorem pathOf_append_slash (s t : List Char) :
    pathOf (s ++ '/' :: t) = resolve [] (frontOf s ++ segments t) := by
  cases s with
  | nil => rfl
  | cons c s =>
    rw [frontOf, ← segments_append_slash]
    rfl

/-- What stands before the next segment when one segment is resolved. -/
def advance (before : List (List Char)) (s : List Char) : List (List Char) :=
  if isDoubleDot s then before.drop 1
  else if isSingleDot s then before
  else Percent.encode plainInPath s :: before

theorem resolve_append (front before : List (List Char)) (s : List Char)
    (rest : List (List Char)) :
    resolve before (front ++ s :: rest) = resolve (front.foldl advance before) (s :: rest) := by
  induction front generalizing before with
  | nil => rfl
  | cons f front ih =>
    obtain ⟨t, more, hmore⟩ : ∃ t more, front ++ s :: rest = t :: more := by
      cases front <;> exact ⟨_, _, rfl⟩
    rw [List.foldl_cons, ← ih, List.cons_append, hmore, resolve, advance]
    split_ifs <;> rfl

theorem resolve_append_cons (front before : List (List Char)) (s t : List Char)
    (rest : List (List Char)) : resolve before (front ++ s :: t :: rest)
      = resolve (advance (front.foldl advance before) s) (t :: rest) := by
  have hsplit : front ++ s :: t :: rest = (front ++ [s]) ++ t :: rest := by simp
  rw [hsplit, resolve_append, List.foldl_append]
  rfl

/-- What becomes of the last segment. -/
def lastOf (s : List Char) : List Char :=
  if isDoubleDot s || isSingleDot s then [] else Percent.encode plainInPath s

theorem resolve_last (before : List (List Char)) (s : List Char) :
    resolve before [s] = (lastOf s :: if isDoubleDot s then before.drop 1 else before).reverse := by
  rw [resolve, lastOf]
  cases isDoubleDot s <;> cases isSingleDot s <;> rfl

/-- A path ends with what becomes of one of its segments. -/
theorem exists_getLast?_resolve (before : List (List Char)) (s : List Char) :
    ∃ t ∈ segments s, (resolve before (segments s)).getLast? = some (lastOf t) := by
  rcases List.eq_nil_or_concat (segments s) with hnil | ⟨front, t, hsegments⟩
  · obtain ⟨t, rest, hs⟩ := exists_segments s
    cases hs.symm.trans hnil
  · refine ⟨t, by simp [hsegments], ?_⟩
    rw [hsegments, List.concat_eq_append, resolve_append, resolve_last, List.getLast?_reverse]
    rfl

/-! ### Addresses below a base -/

theorem located?_append_slash {secure : Bool} (hquery : '?' ∉ s) (hfragment : '#' ∉ s)
    (t : List Char) : located? (s ++ '/' :: t) secure =
      (located? (s ++ ['/']) secure).map fun a => { a with
        path := resolve [] (frontOf (placeOf s) ++ segments (beforeQuery t))
        query := queryOf t } := by
  have hauthority (t : List Char) : authorityOf (s ++ '/' :: t) = authorityOf s :=
    takeWhile_append_cons rfl s t
  have hplace (t : List Char) : placeOf (s ++ '/' :: t) = placeOf s ++ '/' :: t :=
    dropWhile_append_cons rfl s t
  have hsublist : (placeOf s).Sublist s := List.dropWhile_sublist _
  have hquery' : '?' ∉ placeOf s := fun h => hquery (hsublist.subset h)
  have hfragment' : '#' ∉ placeOf s := fun h => hfragment (hsublist.subset h)
  have hpath : beforeQuery (placeOf s ++ '/' :: t) = placeOf s ++ '/' :: beforeQuery t :=
    beforeQuery_append hquery' hfragment' _
  have hquery : queryOf (placeOf s ++ '/' :: t) = queryOf t :=
    queryOf_append hquery' hfragment' _
  rw [located?, located?, Option.map_map, hauthority, hauthority, hplace, hpath, hquery,
    pathOf_append_slash]
  rfl

/-- A text that names a place to put paths, and the address that it has with a slash after it. -/
structure IsBase (base : List Char) (b : Address) : Prop where
  parsed : parse? (base ++ ['/']) = some b
  noQuery : '?' ∉ base
  noFragment : '#' ∉ base

variable {b : Address}

/-- What follows a base is put where its path ends. -/
theorem IsBase.exists_front (h : IsBase base b) : ∃ front : List (List Char),
    ∀ s, parse? (base ++ '/' :: s) = some { b with
      path := resolve [] (front ++ segments (beforeQuery (trailing s)))
      query := queryOf (trailing s) } := by
  have hparsed := h.parsed
  rw [parse?_eq, cleaned_append_slash, scheme?_append_slash] at hparsed
  obtain ⟨_, hslash, hparsed⟩ := Option.bind_eq_some_iff.1 hparsed
  obtain ⟨⟨name, rest⟩, hscheme, rfl⟩ := Option.map_eq_some_iff.1 hslash
  obtain ⟨secure, hsecure, hlocated⟩ := Option.bind_eq_some_iff.1 hparsed
  dsimp only at hsecure hlocated
  -- a host is named before the slash
  have hhost : (rest.dropWhile isSlash).isEmpty = false := by
    by_contra hempty
    rw [Bool.not_eq_false] at hempty
    rw [List.dropWhile_append, if_pos hempty] at hlocated
    cases hlocated
  have hdrop (t : List Char) :
      (rest ++ '/' :: t).dropWhile isSlash = rest.dropWhile isSlash ++ '/' :: t := by
    rw [List.dropWhile_append, hhost]
    rfl
  have hsublist : (rest.dropWhile isSlash).Sublist base :=
    (List.dropWhile_sublist _).trans <| (sublist_of_scheme? hscheme).trans <|
      List.filter_sublist.trans (List.dropWhile_sublist _)
  refine ⟨frontOf (placeOf (rest.dropWhile isSlash)), fun s => ?_⟩
  rw [hdrop] at hlocated
  rw [parse?_eq, cleaned_append_slash, scheme?_append_slash, hscheme, Option.map_some,
    Option.bind_some, hsecure, Option.bind_some, hdrop,
    located?_append_slash (fun h' => h.noQuery (hsublist.subset h'))
      (fun h' => h.noFragment (hsublist.subset h'))]
  rw [show trailing [] = [] from rfl] at hlocated
  rw [hlocated]
  rfl

/-- The address of a flight, whatever its number is. -/
theorem IsBase.exists_before (h : IsBase base b) : ∃ before : List (List Char),
    b.path = before.reverse ++ [[]] ∧
    ∀ flightNo date, forFlight? base flightNo date = some (withPair
      { b with
        path := resolve ("flights".toList :: before) (segments (beforeQuery (trailing flightNo)))
        query := queryOf (trailing flightNo) } "date".toList date.chars) := by
  obtain ⟨front, hfront⟩ := h.exists_front
  have hself := h.parsed
  rw [hfront [], Option.some.injEq] at hself
  refine ⟨front.foldl advance [], ?_, ?_⟩
  · have hpath : resolve [] (front ++ [[]]) = b.path := congrArg path hself
    rw [← hpath, resolve_append]
    exact List.reverse_cons
  · intro flightNo date
    have htext : base ++ "/flights/".toList ++ flightNo
        = base ++ '/' :: ("flights".toList ++ '/' :: flightNo) := by simp
    have htrailing : trailing ("flights".toList ++ '/' :: flightNo)
        = "flights".toList ++ '/' :: trailing flightNo := by
      rw [trailing_append_slash]
      rfl
    have hpath : beforeQuery ("flights".toList ++ '/' :: trailing flightNo)
        = "flights".toList ++ '/' :: beforeQuery (trailing flightNo) :=
      beforeQuery_append (by decide) (by decide) _
    have hquery : queryOf ("flights".toList ++ '/' :: trailing flightNo)
        = queryOf (trailing flightNo) :=
      queryOf_append (by decide) (by decide) _
    obtain ⟨t, rest, hsegments⟩ := exists_segments (beforeQuery (trailing flightNo))
    have hresolve : resolve [] (front ++ "flights".toList :: t :: rest)
        = resolve ("flights".toList :: front.foldl advance []) (t :: rest) :=
      resolve_append_cons front [] _ t rest
    have hflights : segments "flights".toList = ["flights".toList] := rfl
    rw [forFlight?, htext, hfront, htrailing, hpath, hquery, segments_append_slash, hsegments,
      hflights, List.singleton_append, hresolve]
    rfl

end ShuttleDesk.Flight.Address
