import ActionRouting.Path.Template
import ActionRouting.Proofs.Path.Tokens

/-! Paths made of segments: literal text with one parameter in it at the most, and a format at its
end. They are cut into their characters and their parameters. -/
namespace ActionRouting.Path

open Text

def isFree (c : Char) : Bool := !"\\.*+?()[]\x7b\x7d|^$:/".toList.contains c

/-- A character without a meaning in paths or regular expressions, and without one in URLs. -/
def isLiteral (c : Char) : Bool := !"\\.*+?()[]\x7b\x7d|^$:/#".toList.contains c

/-- A parameter that captures what it captures by default: its name, and whether it may be
missing. -/
structure Hole where
  name : List Char
  optional : Bool
  deriving DecidableEq, Repr

namespace Hole

def write (h : Hole) : List Char := h.name ++ if h.optional then ['?'] else []

def param (h : Hole) (slash dot : Bool) : Param := ⟨slash, dot, h.name, none, h.optional, false⟩

def isValid (h : Hole) : Bool := !h.name.isEmpty && h.name.all isWord

end Hole

/-- A segment of a path: a text, a hole with the text after it, and a hole for a format. -/
structure Segment where
  start : List Char
  hole : Option (Hole × List Char) := none
  format : Option Hole := none
  deriving DecidableEq, Repr

/-- A text, after a hole, that is not read as a part of it. -/
def follows (optional : Bool) (cs : List Char) : Bool :=
  cs.head?.all fun c => c != '(' && c != '?' && c != '*' && (optional || !isWord c)

namespace Segment

def write (g : Segment) : List Char :=
  g.start ++ (g.hole.elim [] fun h => ':' :: h.1.write ++ h.2) ++
    g.format.elim [] fun h => '.' :: ':' :: h.write

/-- The texts are literal, the holes have names, and the text after a hole does not belong to its
name. -/
def isValid (g : Segment) : Bool :=
  g.start.all isLiteral &&
    g.hole.all (fun h => h.1.isValid && h.2.all isLiteral && follows h.1.optional h.2) &&
    g.format.all Hole.isValid

/-- The texts have characters of a kind, the holes have names, and the text after a hole does not
belong to its name. -/
def isOver (kind : Char → Bool) (g : Segment) : Bool :=
  g.start.all kind &&
    g.hole.all (fun h => h.1.isValid && h.2.all kind && follows h.1.optional h.2) &&
    g.format.all Hole.isValid

def body (g : Segment) : List (Piece Param) :=
  g.start.map .plain ++
    (g.hole.elim [] fun h => .token (h.1.param false false) :: h.2.map .plain) ++
    g.format.elim [] fun h => [.token (h.param false true)]

end Segment

/-- Parts with a slash before them. A parameter takes it. -/
def slashed : List (Piece Param) → List (Piece Param)
  | .token p :: ps => .token { p with slash := true } :: ps
  | ps => .plain '/' :: ps

@[simp] lemma slashed_plain (c : Char) (ps : List (Piece Param)) :
    slashed (.plain c :: ps) = .plain '/' :: .plain c :: ps := rfl

@[simp] lemma slashed_hole (h : Hole) (dot : Bool) (ps : List (Piece Param)) :
    slashed (.token (h.param false dot) :: ps) = .token (h.param true dot) :: ps := rfl

def writePath (segments : List Segment) : List Char := segments.flatMap fun g => '/' :: g.write

def pathPieces (segments : List Segment) : List (Piece Param) :=
  segments.flatMap fun g => slashed g.body

lemma isFree_ne {c : Char} (h : isFree c) {d : Char} (hd : isFree d = false) : c ≠ d := by
  rintro rfl
  rw [h] at hd
  cases hd

lemma isFree_of_isLiteral {c : Char} (h : isLiteral c) : isFree c := by
  simp only [isLiteral, isFree, Bool.not_eq_true', List.contains_eq_mem, decide_eq_false_iff_not]
    at h ⊢
  exact fun hm => h (List.mem_append_left _ hm : c ∈ _ ++ ['#'])

/-- A literal segment is free of syntax. -/
lemma Segment.isOver_of_isValid {g : Segment} (h : g.isValid) : g.isOver isFree := by
  have hfree {u : List Char} (hu : u.all isLiteral) : u.all isFree :=
    List.all_eq_true.mpr fun c hc => isFree_of_isLiteral (List.all_eq_true.mp hu c hc)
  obtain ⟨start, hole, format⟩ := g
  simp only [isValid, isOver, Bool.and_eq_true] at h ⊢
  refine ⟨⟨hfree h.1.1, ?_⟩, h.2⟩
  cases hole with
  | none => rfl
  | some k =>
    simp only [Option.all_some, Bool.and_eq_true] at h ⊢
    exact ⟨⟨h.1.2.1.1, hfree h.1.2.1.2⟩, h.1.2.2⟩

lemma isOver_of_isValid {segments : List Segment} (hg : ∀ g ∈ segments, g.isValid) :
    ∀ g ∈ segments, g.isOver isFree := fun g hm => Segment.isOver_of_isValid (hg g hm)

lemma param_write (h : Hole) (slash dot : Bool) : (h.param slash dot).write =
    (if slash then ['/'] else []) ++ ((if dot then ['.'] else []) ++ ':' :: h.write) := by
  cases ho : h.optional <;> simp [Param.write, Hole.param, Hole.write, ho]

lemma head?_of_follows {optional : Bool} {cs : List Char} (h : follows optional cs) :
    cs.head? ≠ some '(' ∧ cs.head? ≠ some '?' ∧ cs.head? ≠ some '*' ∧
      (optional = false → cs.head?.all (!isWord ·)) := by
  cases cs with
  | nil => simp
  | cons c cs =>
    simp only [follows, List.head?_cons, Option.all_some, Bool.and_eq_true, bne_iff_ne,
      Bool.or_eq_true, Bool.not_eq_true'] at h
    obtain ⟨⟨⟨h₁, h₂⟩, h₃⟩, h₄⟩ := h
    refine ⟨by simpa using h₁, by simpa using h₂, by simpa using h₃, fun ho => ?_⟩
    simpa [ho] using h₄

namespace Param

lemma eat_self (c : Char) (cs : List Char) : eat c (c :: cs) = (true, cs) := if_pos rfl

lemma eat_of_ne {c : Char} {cs : List Char} (h : cs.head? ≠ some c) : eat c cs = (false, cs) := by
  cases cs with
  | nil => rfl
  | cons d cs => exact if_neg fun hd => h (by rw [hd]; rfl)

lemma capture?_of_ne {cs : List Char} (h : cs.head? ≠ some '(') : capture? cs = none := by
  unfold capture?
  split
  · exact absurd rfl h
  · rfl

/-- A character that is no slash, no dot and no colon begins no parameter. -/
lemma read?_of_ne {before : Option Char} {c : Char} {cs : List Char} (hs : c ≠ '/') (hd : c ≠ '.')
    (hc : c ≠ ':') : read? before (c :: cs) = none := by
  rw [read?, eat_of_ne (by simpa using hs)]
  dsimp only
  rw [eat_of_ne (by simpa using hd)]
  dsimp only
  split
  · next heq =>
    cases heq
    exact absurd rfl hc
  · rfl

lemma read?_slash {before : Option Char} {cs : List Char} (hd : cs.head? ≠ some '.')
    (hc : cs.head? ≠ some ':') : read? before ('/' :: cs) = none := by
  rw [read?, eat_self]
  dsimp only
  rw [eat_of_ne hd]
  dsimp only
  split
  · exact absurd rfl hc
  · rfl

lemma readTail_write {h : Hole} (hv : h.isValid) (slash dot : Bool) {cs : List Char}
    (hf : follows h.optional cs) :
    readTail slash dot (h.write ++ cs) = some (h.param slash dot) := by
  simp only [Hole.isValid, Bool.and_eq_true, Bool.not_eq_true', List.all_eq_true] at hv
  obtain ⟨hopen, hquery, hstar, hword⟩ := head?_of_follows hf
  obtain ⟨name, optional⟩ := h
  obtain ⟨hne, hall⟩ := hv
  have htail : ((if optional then ['?'] else []) ++ cs).head?.all (!isWord ·) := by
    cases optional with
    | true => exact (by decide : (!isWord '?') = true)
    | false => exact hword rfl
  generalize hd : (if optional then ['?'] else []) ++ cs = tail at htail
  have hsplit : tail.takeWhile isWord = [] ∧ tail.dropWhile isWord = tail := by
    cases tail with
    | nil => exact ⟨rfl, rfl⟩
    | cons c tail =>
      have hc : ¬ isWord c := by simpa using htail
      exact ⟨List.takeWhile_cons_of_neg hc, List.dropWhile_cons_of_neg hc⟩
  have htake : (name ++ tail).takeWhile isWord = name := by
    rw [List.takeWhile_append_of_pos hall, hsplit.1, List.append_nil]
  have hdrop : (name ++ tail).dropWhile isWord = tail := by
    rw [List.dropWhile_append_of_pos hall, hsplit.2]
  simp only [Hole.write, List.append_assoc, hd, readTail, htake, hdrop, hne, Bool.false_eq_true,
    if_false]
  subst hd
  cases optional with
  | true =>
    rw [if_pos rfl, List.singleton_append, capture?_of_ne (by simp)]
    simp [eat_self, eat_of_ne hstar, Hole.param]
  | false =>
    rw [if_neg Bool.false_ne_true, List.nil_append, capture?_of_ne hopen]
    simp [eat_of_ne hquery, eat_of_ne hstar, Hole.param]

/-- A hole is read where it is written. -/
lemma read?_write {h : Hole} (hv : h.isValid) (slash dot : Bool) {before : Option Char}
    (hb : slash = false → dot = false → before ≠ some '?') {cs : List Char}
    (hf : follows h.optional cs) :
    read? before ((h.param slash dot).write ++ cs) = some (h.param slash dot) := by
  have hslash (ds : List Char) (hds : ds.head? ≠ some '/') :
      eat '/' ((if slash then ['/'] else []) ++ ds) = (slash, ds) := by
    cases slash with
    | true => exact eat_self _ _
    | false => exact eat_of_ne hds
  have hdot (ds : List Char) (hds : ds.head? ≠ some '.') :
      eat '.' ((if dot then ['.'] else []) ++ ds) = (dot, ds) := by
    cases dot with
    | true => exact eat_self _ _
    | false => exact eat_of_ne hds
  rw [param_write, List.append_assoc, read?, hslash _ (by cases dot <;> simp)]
  dsimp only
  rw [List.append_assoc, hdot _ (by simp)]
  change (if (!slash && !dot && before == some '?') = true then none
    else readTail slash dot (h.write ++ cs)) = _
  rw [if_neg, readTail_write hv slash dot hf]
  simp only [Bool.and_eq_true, Bool.not_eq_true', beq_iff_eq, not_and]
  exact fun h => hb h.1 h.2

end Param

/-- A scanner that reads parameters, and nothing else in a literal text. -/
structure Extends {τ : Type} (sc : Scanner τ) (image : Param → τ) : Prop where
  write_image : ∀ p, sc.write (image p) = p.write
  read_param : ∀ {before cs p}, Param.read? before cs = some p →
    sc.read? before cs = some (image p)
  read_none : ∀ {before c cs}, isFree c ∨ c = '/' → Param.read? before (c :: cs) = none →
    sc.read? before (c :: cs) = none

lemma extends_param : Extends Param.scanner id where
  write_image _ := rfl
  read_param h := h
  read_none _ h := h

lemma extends_fragment : Extends Fragment.scanner .param where
  write_image _ := rfl
  read_param h := by simp only [Fragment.scanner, Fragment.read?, h]
  read_none := by
    intro before c cs hc h
    have hne (d : Char) (hd : isFree d = false) (hs : '/' ≠ d) : c ≠ d := by
      rcases hc with hc | rfl
      · exact isFree_ne hc hd
      · exact hs
    have h₁ := hne '\\' (by decide) (by decide)
    have h₂ := hne '(' (by decide) (by decide)
    have h₃ := hne '.' (by decide) (by decide)
    have h₄ := hne '*' (by decide) (by decide)
    simp only [Fragment.scanner, Fragment.read?, h]
    split <;> simp_all

/-- A part, with its parameter seen as another token. -/
def image {τ : Type} (f : Param → τ) : Piece Param → Piece τ
  | .plain c => .plain c
  | .token p => .token (f p)

@[simp] lemma image_comp_plain {τ : Type} (f : Param → τ) :
    image f ∘ Piece.plain = Piece.plain := rfl

/-- What may come after a segment: nothing, a slash, or what ends an alternative. -/
def isEdge (cs : List Char) : Bool := cs.head?.all fun c => c == '/' || c == '|' || c == ')'

lemma follows_append {optional : Bool} {cs ds : List Char} (hc : follows optional cs)
    (hd : follows optional ds) : follows optional (cs ++ ds) := by
  cases cs with
  | nil => exact hd
  | cons c cs => exact hc

lemma follows_dot (optional : Bool) (cs : List Char) : follows optional ('.' :: cs) := by
  have : (optional || !isWord '.') = true := by
    rw [Bool.or_eq_true]
    exact .inr (by decide)
  simp [follows, this]

lemma follows_edge (optional : Bool) {cs : List Char} (h : isEdge cs) : follows optional cs := by
  have hw : ∀ c ∈ ['/', '|', ')'], c ≠ '(' ∧ c ≠ '?' ∧ c ≠ '*' ∧ ¬ isWord c := by
    rw [List.forall_mem_cons, List.forall_mem_cons, List.forall_mem_singleton]
    decide
  cases cs with
  | nil => rfl
  | cons c cs =>
    have hc : c ∈ ['/', '|', ')'] := by simpa [isEdge, or_assoc] using h
    obtain ⟨h₁, h₂, h₃, h₄⟩ := hw c hc
    simp [follows, h₁, h₂, h₃, h₄]

section Cuts

variable {τ : Type} {sc : Scanner τ} {f : Param → τ} {cs : List Char} {ps : List (Piece τ)}

lemma cuts_plains (hx : Extends sc f) {P : Option Char → Prop} (hP : ∀ c, isFree c → P (some c))
    {u : List Char} (hu : u.all isFree) (h : ∀ before, P before → sc.Cuts before cs ps)
    {before : Option Char} (hb : P before) :
    sc.Cuts before (u ++ cs) (u.map .plain ++ ps) := by
  induction u generalizing before with
  | nil => exact h before hb
  | cons c u ih =>
    rw [List.all_cons, Bool.and_eq_true] at hu
    have hr : Param.read? before (c :: (u ++ cs)) = none := Param.read?_of_ne
      (isFree_ne hu.1 (by decide)) (isFree_ne hu.1 (by decide))
      (isFree_ne hu.1 (by decide))
    exact .plain (hx.read_none (.inl hu.1) hr) (ih hu.2 (hP c hu.1))

lemma cuts_hole (hx : Extends sc f) {h : Hole} (hv : h.isValid) (slash dot : Bool)
    (before : Option Char) (hb : slash = false → dot = false → before ≠ some '?')
    (hf : follows h.optional cs) (hc : ∀ before, sc.Cuts before cs ps) :
    sc.Cuts before ((h.param slash dot).write ++ cs) (.token (f (h.param slash dot)) :: ps) := by
  have hr := hx.read_param (Param.read?_write hv slash dot hb hf)
  rw [← hx.write_image] at hr ⊢
  exact .token hr (hc _)

lemma cuts_format (hx : Extends sc f) {format : Option Hole} (hv : format.all Hole.isValid)
    (he : isEdge cs) (hc : ∀ before, sc.Cuts before cs ps) (before : Option Char) :
    sc.Cuts before ((format.elim [] fun h => '.' :: ':' :: h.write) ++ cs)
      ((format.elim [] fun h => [.token (f (h.param false true))]) ++ ps) := by
  cases format with
  | none => exact hc before
  | some h =>
    have := cuts_hole hx hv false true before (by simp) (follows_edge _ he) hc
    simpa [param_write] using this

lemma follows_format (optional : Bool) (format : Option Hole) (he : isEdge cs) :
    follows optional ((format.elim [] fun h => '.' :: ':' :: h.write) ++ cs) := by
  cases format with
  | none => exact follows_edge optional he
  | some h => exact follows_dot optional _

/-- What comes after the slash and the first parameter of a segment, or after its text. -/
lemma cuts_middle (hx : Extends sc f) (slash : Bool) {h : Hole} {stop : List Char}
    {format : Option Hole} (hh : h.isValid) (hs : stop.all isFree) (hf : follows h.optional stop)
    (hv : format.all Hole.isValid) (he : isEdge cs) (hc : ∀ before, sc.Cuts before cs ps)
    (before : Option Char) (hb : slash = false → before ≠ some '?') :
    sc.Cuts before ((h.param slash false).write ++ (stop ++
        ((format.elim [] fun h => '.' :: ':' :: h.write) ++ cs)))
      (.token (f (h.param slash false)) :: (stop.map .plain ++
        ((format.elim [] fun h => [.token (f (h.param false true))]) ++ ps))) :=
  cuts_hole hx hh slash false before (fun hs _ => hb hs)
    (follows_append hf (follows_format _ format he))
    fun _ => cuts_plains hx (P := fun _ => True) (fun _ _ => trivial) hs
      (fun b _ => cuts_format hx hv he hc b) trivial

/-- A segment with its slash is cut into its parts. -/
lemma cuts_segment (hx : Extends sc f) {g : Segment} (hg : g.isOver isFree) (he : isEdge cs)
    (hc : ∀ before, sc.Cuts before cs ps) (before : Option Char) :
    sc.Cuts before ('/' :: g.write ++ cs) ((slashed g.body).map (image f) ++ ps) := by
  obtain ⟨start, hole, format⟩ := g
  simp only [Segment.isOver, Bool.and_eq_true] at hg
  obtain ⟨⟨hstart, hhole⟩, hformat⟩ := hg
  cases start with
  | cons c start =>
    have hlit := hstart
    rw [List.all_cons, Bool.and_eq_true] at hlit
    have hr (ds : List Char) : Param.read? before ('/' :: c :: ds) = none :=
      Param.read?_slash (by simpa using isFree_ne hlit.1 (by decide))
        (by simpa using isFree_ne hlit.1 (by decide))
    have hrest {ds : List Char} {qs : List (Piece τ)}
        (h : ∀ before, before ≠ some '?' → sc.Cuts before ds qs) :
        sc.Cuts before ('/' :: (c :: start ++ ds))
          (.plain '/' :: ((c :: start).map .plain ++ qs)) :=
      .plain (hx.read_none (.inr rfl) (hr _)) (cuts_plains hx (P := (· ≠ some '?'))
        (fun d hd => by simpa using isFree_ne hd (by decide)) hstart h (by simp))
    cases hole with
    | none =>
      have := hrest fun b _ => cuts_format hx hformat he hc b
      cases format <;> simpa [Segment.write, Segment.body, image] using this
    | some h =>
      simp only [Option.all_some, Bool.and_eq_true] at hhole
      have := hrest fun b hb => cuts_middle hx false hhole.1.1 hhole.1.2 hhole.2 hformat he hc b
        fun _ => hb
      cases format <;>
        simpa [Segment.write, Segment.body, image, param_write] using this
  | nil =>
    cases hole with
    | some h =>
      simp only [Option.all_some, Bool.and_eq_true] at hhole
      have := cuts_middle hx true hhole.1.1 hhole.1.2 hhole.2 hformat he hc before (by simp)
      cases format <;>
        simpa [Segment.write, Segment.body, image, param_write] using this
    | none =>
      cases format with
      | some h =>
        have := cuts_hole hx hformat true true before (by simp) (follows_edge _ he) hc
        simpa [Segment.write, Segment.body, image, param_write] using this
      | none =>
        have hr : Param.read? before ('/' :: cs) = none := by
          cases cs with
          | nil => rfl
          | cons d cs =>
            have hd : d ∈ ['/', '|', ')'] := by simpa [isEdge, or_assoc] using he
            have hne : ∀ d ∈ ['/', '|', ')'], d ≠ '.' ∧ d ≠ ':' := by
              rw [List.forall_mem_cons, List.forall_mem_cons, List.forall_mem_singleton]
              decide
            exact Param.read?_slash (by simpa using (hne d hd).1) (by simpa using (hne d hd).2)
        exact .plain (hx.read_none (.inr rfl) hr) (hc _)

/-- A path is cut into its parts. -/
theorem cuts_path (hx : Extends sc f) {segments : List Segment}
    (hg : ∀ g ∈ segments, g.isOver isFree) (he : isEdge cs) (hc : ∀ before, sc.Cuts before cs ps)
    (before : Option Char) :
    sc.Cuts before (writePath segments ++ cs) ((pathPieces segments).map (image f) ++ ps) := by
  induction segments generalizing before with
  | nil => exact hc before
  | cons g segments ih =>
    have he' : isEdge (writePath segments ++ cs) := by
      cases segments with
      | nil => exact he
      | cons => rfl
    have h := cuts_segment hx (hg g List.mem_cons_self) he'
      (ih fun g' hm => hg g' (List.mem_cons_of_mem _ hm)) before
    simpa [writePath, pathPieces] using h

end Cuts

lemma map_image_id (ps : List (Piece Param)) : ps.map (image id) = ps := by
  refine (List.map_congr_left fun p _ => ?_).trans (List.map_id ps)
  cases p <;> rfl

theorem pieces_path {segments : List Segment} (hg : ∀ g ∈ segments, g.isOver isFree) :
    Param.scanner.pieces (writePath segments) = pathPieces segments := by
  have h : Param.scanner.Cuts none (writePath segments ++ []) _ :=
    cuts_path extends_param hg rfl (fun b => .nil b) none
  rw [List.append_nil, List.append_nil, map_image_id] at h
  exact (Param.scanner_isFaithful.eq_piecesFrom h).symm

def pathFragments (segments : List Segment) : List (Piece Fragment) :=
  (pathPieces segments).map (image .param)

theorem fragments_path {segments : List Segment} (hg : ∀ g ∈ segments, g.isOver isFree) :
    Fragment.scanner.pieces (writePath segments) = pathFragments segments := by
  have h : Fragment.scanner.Cuts none (writePath segments ++ []) _ :=
    cuts_path extends_fragment hg rfl (fun b => .nil b) none
  rw [List.append_nil, List.append_nil] at h
  exact (Fragment.scanner_isFaithful.eq_piecesFrom h).symm

def jointFragments (paths : List (List Segment)) : List (Piece Fragment) :=
  .token (.group none) :: [.plain '|'].intercalate (paths.map pathFragments) ++ [.plain ')']

lemma cuts_mark {c : Char} (h : c = '|' ∨ c = ')') {cs : List Char} {ps : List (Piece Fragment)}
    (hc : ∀ before, Fragment.scanner.Cuts before cs ps) (before : Option Char) :
    Fragment.scanner.Cuts before (c :: cs) (.plain c :: ps) := by
  refine .plain ?_ (hc _)
  rcases h with rfl | rfl
  · simp [Fragment.scanner, Fragment.read?, Param.read?_of_ne]
  · simp [Fragment.scanner, Fragment.read?, Param.read?_of_ne]

lemma cuts_alternatives {paths : List (List Segment)}
    (hg : ∀ segments ∈ paths, ∀ g ∈ segments, g.isOver isFree) (before : Option Char) :
    Fragment.scanner.Cuts before (['|'].intercalate (paths.map writePath) ++ [')'])
      ([.plain '|'].intercalate (paths.map pathFragments) ++ [.plain ')']) := by
  have hclose := cuts_mark (c := ')') (.inr rfl) fun b => .nil b
  induction paths generalizing before with
  | nil => exact hclose before
  | cons segments paths ih =>
    have hseg := hg segments List.mem_cons_self
    cases paths with
    | nil =>
      have := cuts_path extends_fragment hseg (by rfl) hclose before
      simpa [List.intercalate, pathFragments] using this
    | cons segments' paths =>
      have hbar := cuts_mark (c := '|') (.inl rfl)
        fun b => ih (fun s hs => hg s (List.mem_cons_of_mem _ hs)) b
      have := cuts_path extends_fragment hseg (by rfl) hbar before
      rw [← pathFragments] at this
      simpa [List.intercalate] using this

lemma isEdge_alternatives (paths : List (List Segment)) :
    isEdge (['|'].intercalate (paths.map writePath) ++ [')']) := by
  cases paths with
  | nil => rfl
  | cons segments paths =>
    cases paths with
    | nil => cases segments <;> simp [List.intercalate, writePath, isEdge]
    | cons => cases segments <;> simp [List.intercalate, writePath, isEdge]

theorem fragments_joint {paths : List (List Segment)}
    (hg : ∀ segments ∈ paths, ∀ g ∈ segments, g.isOver isFree) :
    Fragment.scanner.pieces (Pattern.joinAlternatives (paths.map (String.ofList ∘ writePath))) =
      jointFragments paths := by
  have htext : Pattern.joinAlternatives (paths.map (String.ofList ∘ writePath)) =
      '(' :: (['|'].intercalate (paths.map writePath) ++ [')']) := by
    simp [Pattern.joinAlternatives, Function.comp_def]
  have hhead := isEdge_alternatives paths
  generalize hu : ['|'].intercalate (paths.map writePath) ++ [')'] = u at htext hhead
  have hread : Fragment.scanner.read? none ((Fragment.group none).write ++ u) =
      some (.group none) := by
    have hparam : Param.read? none ('(' :: u) = none := Param.read?_of_ne (by decide) (by decide)
      (by decide)
    have hgroup : Fragment.readGroup u = some (.group none) := by
      unfold Fragment.readGroup
      split
      · cases hhead
      · cases hhead
      · rfl
    simpa [Fragment.scanner, Fragment.read?, Fragment.write, hparam] using hgroup
  have hc : Fragment.scanner.Cuts none ('(' :: u) (jointFragments paths) :=
    .token (t := .group none) hread (hu ▸ cuts_alternatives hg _)
  rw [htext]
  exact (Fragment.scanner_isFaithful.eq_piecesFrom hc).symm

def textOf (value : Param → List Char) (ps : List (Piece Param)) : List Char :=
  ps.flatMap fun
    | .plain c => [c]
    | .token p => value p

lemma piecesFrom_trailingStar {cs : List Char} (h : '*' ∉ cs) (before : Option Char) :
    trailingStar.piecesFrom 0 before cs = cs.map .plain := by
  induction cs generalizing before with
  | nil => rfl
  | cons c cs ih =>
    obtain ⟨-, hcs⟩ := List.ne_and_not_mem_of_not_mem_cons h
    have hr : trailingStar.read? before (c :: cs) = none := by
      simp only [trailingStar]
      split
      · next heq =>
        cases heq
        exact absurd List.mem_cons_self hcs
      · rfl
    rw [Scanner.piecesFrom, hr]
    exact congrArg _ (ih hcs _)

lemma foldl_plain {τ σ : Type} {f : σ × List (List Char) → Piece τ → σ × List (List Char)}
    (hf : ∀ done c, f done (.plain c) = (done.1, [c] :: done.2)) (cs : List Char)
    (done : σ × List (List Char)) :
    ((cs.map Piece.plain).foldl f done).2 = (cs.map ([·])).reverse ++ done.2 := by
  induction cs generalizing done with
  | nil => rfl
  | cons c cs ih => simp [ih, hf]

/-- A text without stars has no rest of the path to fill. -/
lemma replaceWith_trailingStar {σ : Type} (image : σ → Unit → σ × List Char) (state : σ)
    {cs : List Char} (h : '*' ∉ cs) : trailingStar.replaceWith image state cs = cs := by
  rw [Scanner.replaceWith, Scanner.pieces, piecesFrom_trailingStar h,
    foldl_plain fun done c => rfl, List.append_nil, List.reverse_reverse, ← List.flatMap_def]
  exact List.flatMap_singleton' cs

/-- A path is filled part by part. -/
theorem fill_path {segments : List Segment} (hg : ∀ g ∈ segments, g.isOver isFree)
    (named : OrderedMap Value) (positional : List Value)
    (h : '*' ∉ textOf (fillParam named) (pathPieces segments)) :
    fill named positional (writePath segments) =
      textOf (fillParam named) (pathPieces segments) := by
  have hreplace : Param.scanner.replace (fillParam named) (writePath segments) =
      textOf (fillParam named) (pathPieces segments) := by
    rw [Scanner.replace, pieces_path hg, textOf]
    congr 1
    funext p
    cases p <;> rfl
  rw [fill, hreplace, replaceWith_trailingStar _ _ h]

end ActionRouting.Path
