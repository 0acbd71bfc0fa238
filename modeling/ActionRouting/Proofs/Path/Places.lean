import ActionRouting.Proofs.Path.AtomReadings

/-! The paths of a collection: its own, that of a new item, that of an item, and that where an item
is edited. Where case matters, a path is found at one of them only, but for the word of a new item,
which could be an item too. -/
namespace ActionRouting.Path

open Text Regex

/-- A kind of place in a collection: the collection itself, a new item, an item, and an item that is
edited. -/
inductive Spot
  | itself
  | fresh
  | item
  | editing
  deriving DecidableEq, Repr

/-- A path that a collection may be mounted at: literal characters and slashes, without a slash at
the end. -/
def isBase (base : List Char) : Bool :=
  base.all (fun c => isLiteral c || c == '/') && base.getLast? != some '/'

/-- Characters that stand for themselves. -/
def literally (u : List Char) : List Atom := u.map .char

def newWord : List Char := ['n', 'e', 'w']

def editWord : List Char := ['e', 'd', 'i', 't']

namespace Spot

def ending : Spot → List Atom
  | itself => []
  | fresh => literally ('/' :: newWord)
  | item => [.hole ['i', 'd']]
  | editing => .hole ['i', 'd'] :: literally ('/' :: editWord)

def atoms (base : List Char) (spot : Spot) : List Atom := literally base ++ spot.ending

/-- How many slashes the path of a place has behind that of the collection. -/
def slashes : Spot → Nat
  | itself => 0
  | fresh | item => 1
  | editing => 2

end Spot

/-- What a path has behind that of the collection, with the text of its item. -/
inductive Below : Spot → List (List Char) → List Char → Prop
  | itself : Below .itself [] []
  | fresh : Below .fresh [] ('/' :: newWord)
  | item {x : List Char} : x ≠ [] → '/' ∉ x → Below .item [x] ('/' :: x)
  | editing {x : List Char} : x ≠ [] → '/' ∉ x → Below .editing [x] ('/' :: x ++ '/' :: editWord)

/-- A path is at a place of a collection. -/
def IsAt (base : List Char) (spot : Spot) (xs : List (List Char)) (path : List Char) : Prop :=
  ∃ t, path = base ++ t ∧ Below spot xs t

/-- A path without the one slash at its end that does not matter. -/
def trimmed (strict : Bool) (path : List Char) : List Char :=
  if !strict && path.getLast? == some '/' then path.dropLast else path

variable {base path t u w : List Char} {as : List Atom} {spot spot' : Spot}
  {xs ys : List (List Char)} {caseSensitive strict : Bool}

lemma Below.count_slash (h : Below spot xs t) : t.count '/' = spot.slashes := by
  have hnone {x : List Char} (hx : '/' ∉ x) : x.count '/' = 0 := List.count_eq_zero.mpr hx
  cases h with
  | itself => rfl
  | fresh => rfl
  | item _ hx => rw [List.count_cons_self, hnone hx]; rfl
  | editing _ hx => rw [List.cons_append, List.count_cons_self, List.count_append, hnone hx]; rfl

/-- A text below a collection is of one kind, unless it is the word of a new item. -/
lemma Below.spot_eq (h : Below spot xs t) (h' : Below spot' ys t) (hne : spot' ≠ spot) :
    spot = .fresh ∧ spot' = .item ∨ spot = .item ∧ spot' = .fresh ∧ xs = [newWord] := by
  have hslashes := h.count_slash.symm.trans h'.count_slash
  cases spot <;> cases spot' <;> first | exact absurd rfl hne | cases hslashes
  · exact .inl ⟨rfl, rfl⟩
  · cases h'
    cases h
    exact .inr ⟨rfl, rfl, rfl⟩

/-- The word of a new item could be an item. -/
lemma Below.fresh_of_item (h : Below .item [newWord] t) : Below .fresh [] t := by
  cases h
  exact .fresh

/-! ### The paths of the places -/

lemma isAtomic_literally (hu : u.all fun c => isLiteral c || c == '/') (h : isAtomic as) :
    isAtomic (literally u ++ as) := by
  induction u with
  | nil => exact h
  | cons c u ih =>
    rw [List.all_cons, Bool.and_eq_true] at hu
    have hc : (Atom.char c).isValid := by
      rcases (Bool.or_eq_true _ _).mp hu.1 with hc | hc
      · simp [Atom.isValid, isFree_of_isLiteral hc]
      · simp [Atom.isValid, hc]
    have hrest := Bool.and_eq_true_iff.mp (ih hu.2)
    change ((Atom.char c).isValid && List.all (literally u ++ as) Atom.isValid &&
      isSegmented (literally u ++ as)) = true
    rw [hc, hrest.1, hrest.2]
    rfl

lemma isAtomic_spot (hb : isBase base) (spot : Spot) : isAtomic (spot.atoms base) := by
  refine isAtomic_literally (Bool.and_eq_true_iff.mp hb).1 ?_
  cases spot <;> decide

lemma atomPath_literally (u : List Char) : atomPath (literally u) = u := by
  rw [atomPath, literally, List.flatMap_map]
  exact List.flatMap_singleton' u

lemma atomPath_append (as bs : List Atom) : atomPath (as ++ bs) = atomPath as ++ atomPath bs :=
  List.flatMap_append

/-- Literal characters are read as themselves. -/
lemma readsAs_literally : ReadsAs .exact (literally u) xs w ↔ xs = [] ∧ w = u := by
  have hsame (c d : Char) : (setOf .exact [c]).contains d ↔ d = c := by
    rw [show setOf .exact [c] = ⟨false, [.char c.toNat], .exact, false⟩ from rfl, contains_char,
      Casing.variants, List.mem_singleton, Char.toNat_inj, eq_comm]
  induction u generalizing xs w with
  | nil =>
    constructor
    · intro h
      cases h
      exact ⟨rfl, rfl⟩
    · rintro ⟨rfl, rfl⟩
      exact .nil
  | cons c u ih =>
    change ReadsAs .exact (.char c :: literally u) xs w ↔ _
    rw [readsAs_one rfl]
    constructor
    · rintro ⟨d, v, rfl, hd, h⟩
      obtain ⟨rfl, rfl⟩ := ih.mp h
      exact ⟨rfl, by rw [(hsame _ _).mp hd]⟩
    · rintro ⟨rfl, rfl⟩
      exact ⟨c, u, rfl, (hsame _ _).mpr rfl, ih.mpr ⟨rfl, rfl⟩⟩

lemma readsAs_hole {casing : Casing} {name : List Char} :
    ReadsAs casing (.hole name :: as) xs w ↔
      ∃ x ys v, xs = x :: ys ∧ w = '/' :: x ++ v ∧ x ≠ [] ∧ '/' ∉ x ∧ ReadsAs casing as ys v := by
  constructor
  · intro h
    cases h with
    | one hu => cases hu
    | hole hne hx h => exact ⟨_, _, _, rfl, rfl, hne, hx, h⟩
  · rintro ⟨x, ys, v, rfl, rfl, hne, hx, h⟩
    exact .hole hne hx h

/-- What the path of a place reads behind that of the collection. -/
lemma readsAs_ending : ReadsAs .exact spot.ending xs w ↔ Below spot xs w := by
  cases spot with
  | itself =>
    constructor <;> rintro ⟨⟩
    · exact .itself
    · exact .nil
  | fresh =>
    rw [Spot.ending, readsAs_literally]
    constructor
    · rintro ⟨rfl, rfl⟩
      exact .fresh
    · rintro ⟨⟩
      exact ⟨rfl, rfl⟩
  | item =>
    rw [Spot.ending, readsAs_hole]
    constructor
    · rintro ⟨x, ys, v, rfl, rfl, hne, hx, ⟨⟩⟩
      rw [List.append_nil]
      exact .item hne hx
    · rintro (_ | _ | ⟨hne, hx⟩)
      exact ⟨_, [], [], rfl, (List.append_nil _).symm, hne, hx, .nil⟩
  | editing =>
    rw [Spot.ending, readsAs_hole]
    constructor
    · rintro ⟨x, ys, v, rfl, rfl, hne, hx, h⟩
      obtain ⟨rfl, rfl⟩ := readsAs_literally.mp h
      exact .editing hne hx
    · rintro (_ | _ | _ | ⟨hne, hx⟩)
      exact ⟨_, [], _, rfl, rfl, hne, hx, readsAs_literally.mpr ⟨rfl, rfl⟩⟩

lemma readsAs_spot : ReadsAs .exact (spot.atoms base) xs w ↔ IsAt base spot xs w := by
  rw [Spot.atoms, readsAs_append]
  constructor
  · rintro ⟨_, xs, _, t, rfl, rfl, hbase, ht⟩
    obtain ⟨rfl, rfl⟩ := readsAs_literally.mp hbase
    exact ⟨t, rfl, readsAs_ending.mp ht⟩
  · rintro ⟨t, rfl, ht⟩
    exact ⟨[], xs, base, t, rfl, rfl, readsAs_literally.mpr ⟨rfl, rfl⟩, readsAs_ending.mpr ht⟩

/-- No path at a place ends with a slash. -/
lemma IsAt.getLast?_ne (hb : isBase base) (h : IsAt base spot xs path) :
    path.getLast? ≠ some '/' := by
  obtain ⟨t, rfl, ht⟩ := h
  have hbase : base.getLast? ≠ some '/' := by simpa using (Bool.and_eq_true_iff.mp hb).2
  have hlast {u v : List Char} (hv : v ≠ []) : (u ++ v).getLast? = v.getLast? :=
    List.getLast?_append_of_ne_nil u hv
  cases ht with
  | itself => rwa [List.append_nil]
  | fresh =>
    rw [hlast (by simp)]
    decide
  | @item x hne hx =>
    rw [hlast (by simp), ← List.singleton_append, hlast hne]
    exact fun he => hx (List.mem_of_getLast? he)
  | editing =>
    rw [hlast (by simp), hlast (by simp)]
    decide

lemma trimmed_append (h : path.getLast? ≠ some '/') {r : List Char} (hr : IsEndingOf strict r)
    (hl : '\n' ∉ r) : trimmed strict (path ++ r) = path := by
  have hself : trimmed strict path = path := by
    rw [trimmed, if_neg]
    simp [h]
  simp only [IsEndingOf, List.mem_cons, List.not_mem_nil, or_false] at hr
  rcases hr with (rfl | rfl) | ⟨rfl, rfl | rfl⟩
  · rwa [List.append_nil]
  · exact absurd List.mem_cons_self hl
  · simp [trimmed]
  · simp at hl

lemma exists_trimmed (strict : Bool) (path : List Char) :
    ∃ r, path = trimmed strict path ++ r ∧ IsEndingOf strict r := by
  rw [trimmed]
  split
  · next h =>
    obtain ⟨hs, hlast⟩ := Bool.and_eq_true_iff.mp h
    have hlast : path.getLast? = some '/' := beq_iff_eq.mp hlast
    exact ⟨['/'], (List.dropLast_append_getLast? '/' hlast).symm,
      .inr ⟨by simpa using hs, by simp⟩⟩
  · exact ⟨[], (List.append_nil _).symm, .inl (by simp)⟩

/-- The path of a place finds the texts that are there, but for a slash. -/
theorem finds_spot (hb : isBase base) (hl : '\n' ∉ path) :
    Finds .exact strict (spot.atoms base) xs path ↔ IsAt base spot xs (trimmed strict path) := by
  constructor
  · rintro ⟨w, r, rfl, hw, hr⟩
    have hat := readsAs_spot.mp hw
    rwa [trimmed_append (hat.getLast?_ne hb) hr fun hm => hl (List.mem_append_right _ hm)]
  · intro hat
    obtain ⟨r, hpath, hr⟩ := exists_trimmed strict path
    exact ⟨trimmed strict path, r, hpath, readsAs_spot.mpr hat, hr⟩

/-- A path that is found at two places is that of a new item. -/
lemma IsAt.spot_eq (h : IsAt base spot xs path) (h' : IsAt base spot' ys path)
    (hne : spot' ≠ spot) :
    spot = .fresh ∧ spot' = .item ∨ spot = .item ∧ spot' = .fresh ∧ xs = [newWord] := by
  obtain ⟨t, rfl, ht⟩ := h
  obtain ⟨t', he, ht'⟩ := h'
  obtain rfl := List.append_cancel_left he
  exact ht.spot_eq ht' hne

lemma IsAt.fresh_of_item (h : IsAt base .item [newWord] path) : IsAt base .fresh [] path := by
  obtain ⟨t, rfl, ht⟩ := h
  exact ⟨t, rfl, ht.fresh_of_item⟩

def Spot.pattern (caseSensitive strict : Bool) (base : List Char) (spot : Spot) : Pattern :=
  atomPattern caseSensitive strict (spot.atoms base)

/-- Different places have different sources. -/
lemma source_injective (h : (spot.pattern caseSensitive strict base).source =
    (spot'.pattern caseSensitive strict base).source) : spot = spot' := by
  have hexpression : (spot.atoms base).flatMap Atom.expression =
      (spot'.atoms base).flatMap Atom.expression := by
    have htexts := String.ofList_inj.mp h
    exact (List.cons.inj (List.append_cancel_right (List.append_cancel_right htexts))).2
  rw [Spot.atoms, Spot.atoms, List.flatMap_append, List.flatMap_append] at hexpression
  have hending := List.append_cancel_left hexpression
  cases spot <;> cases spot' <;> first | rfl | exact absurd hending (by decide)

end ActionRouting.Path
