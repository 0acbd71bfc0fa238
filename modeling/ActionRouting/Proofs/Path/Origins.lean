import Mathlib.Data.List.Forall2
import ActionRouting.Path.Pattern
import ActionRouting.Proofs.Path.Tokens
import ActionRouting.Proofs.Regex.Groups

/-! The capture groups that the parts of a path make: what they come from, and where they open. -/
namespace ActionRouting.Path

open Regex Text

/-- What a capture group of a compiled path comes from: the capture of a parameter, a further group
of it, the star of a parameter, a star that stands alone, or a group written in the path. -/
inductive Origin
  | capture (p : Param)
  | further (p : Param)
  | trailing (p : Param)
  | wildcard
  | written (name : Option String)
  deriving DecidableEq, Repr

/-- The descriptor of a capture group, by what it comes from. -/
def Origin.slot : Origin → Slot
  | .capture p => ⟨some (String.ofList p.name), p.optional⟩
  | .further p => ⟨none, p.optional⟩
  | .trailing _ => ⟨none, true⟩
  | .wildcard => ⟨none, false⟩
  | .written name => ⟨name, false⟩

namespace Param

/-- What a parameter captures, in parentheses that capture. -/
def captureText (p : Param) : List Char :=
  match p.capture with
  | none => if p.dot then Pattern.formatCapture else Pattern.segmentCapture
  | some own => if captures (parens own) = [] then '(' :: own ++ [')'] else own

/-- What stands before the capture of a parameter. -/
def head (p : Param) : List Char :=
  (if p.optional then [] else if p.slash then ['/'] else []) ++ "(?:".toList ++
    (if p.optional ∧ p.slash then ['/'] else []) ++ (if p.dot then ['\\', '.'] else [])

/-- What stands after the capture of a parameter. -/
def foot (p : Param) : List Char :=
  [')'] ++ (if p.optional then ['?'] else []) ++ (if p.star then Pattern.trailingCapture else [])

end Param

/-- The regular expression that a fragment becomes. -/
def Fragment.image : Fragment → List Char
  | .param p => p.head ++ p.captureText ++ p.foot
  | .escape c => ['\\', c]
  | .dot => ['\\', '.']
  | .wildcard => "(.*)".toList
  | .group name => (Fragment.group name).write

/-- The capture groups of a fragment, each with how many characters are left where it opens, if `k`
characters follow the fragment. -/
def Fragment.origins (k : Nat) : Fragment → List (Nat × Origin)
  | .param p =>
    (p.captureText.length + p.foot.length + k, .capture p) ::
      ((captures (parens p.captureText)).tail.map fun g =>
        (g.1 + p.foot.length + k, .further p)) ++
      (if p.star then [(Pattern.trailingCapture.length + k, .trailing p)] else [])
  | .wildcard => [("(.*)".length + k, .wildcard)]
  | .group name => [((Fragment.group name).write.length + k, .written (name.map String.ofList))]
  | .escape _ | .dot => []

/-- The name of a group that is written in a path, if it has one, is a name that the scanner
reads. -/
def Origin.isReadable : Origin → Bool
  | .written (some name) => Fragment.isName name.toList
  | _ => true

/-- A capture group is where its origin says, and has the name that the path gives it. -/
def Agrees (group : Nat × Option String) (origin : Nat × Origin) : Prop :=
  group.1 = origin.1 ∧ ∀ name, origin.2 = .written name → group.2 = name

lemma map_fst_of_agrees {gs : List (Nat × Option String)} {os : List (Nat × Origin)}
    (h : List.Forall₂ Agrees gs os) : gs.map (·.1) = os.map (·.1) := by
  induction h with
  | nil => rfl
  | cons hd _ ih => rw [List.map_cons, List.map_cons, hd.1, ih]

lemma name_of_agrees {gs : List (Nat × Option String)} {os : List (Nat × Origin)}
    (h : List.Forall₂ Agrees gs os) {i k : Nat} {name : Option String}
    (ho : os[i]? = some (k, .written name)) : (gs[i]?).bind (·.2) = name := by
  induction h generalizing i with
  | nil => cases ho
  | cons hd _ ih =>
    cases i with
    | zero =>
      cases ho
      exact hd.2 name rfl
    | succ i => exact ih ho

structure IsGroup (text : List Char) : Prop where
  captures_eq : ∀ v, ∃ name, captures (parens (text ++ v)) =
    (text.length + v.length, name) :: captures (parens v)
  isTame : ∀ v, IsTame v → IsTame (text ++ v)

lemma isGroup_segmentCapture : IsGroup Pattern.segmentCapture where
  captures_eq v := ⟨none, by
    rw [Nat.add_comm]
    rfl⟩
  isTame v hv := hv

lemma isGroup_formatCapture : IsGroup Pattern.formatCapture where
  captures_eq v := ⟨none, by
    rw [Nat.add_comm]
    rfl⟩
  isTame v hv := hv

lemma captures_silent {body : List Char} (hs : isSilentFrom false body) (v : List Char) :
    captures (parens ('(' :: body ++ ')' :: v)) =
      ((opening (body ++ ')' :: v)).capture?.map (body.length + v.length + 2, ·)).toList ++
        captures (parens v) := by
  have hbody : parens (body ++ ')' :: v) = parens (')' :: v) := parensFrom_silent hs _
  have hlen : (body ++ ')' :: v).length + 1 = body.length + v.length + 2 := by simp; omega
  rw [List.cons_append, parens_open, captures_cons, hbody, parens_close, captures_cons, hlen]
  rfl

lemma isTame_silent {body : List Char} (hs : isSilentFrom false body) (hb : '[' ∉ body)
    (ho : isTameOpening (body ++ [')'])) {v : List Char} (hv : IsTame v) :
    IsTame ('(' :: body ++ ')' :: v) := by
  rw [List.cons_append, isTame_open, isTameOpening_append_close]
  refine ⟨ho, ?_⟩
  rw [IsTame, isTameFrom_silent hs hb]
  exact (isTame_close v).mpr hv

lemma isGroup_single {body : List Char} (hs : isSilentFrom false body) (hb : '[' ∉ body)
    (ht : isTameOpening (body ++ [')'])) (ho : (opening (body ++ [')'])).capture?.isSome) :
    IsGroup ('(' :: body ++ [')']) where
  captures_eq v := by
    rw [← capture?_opening_append_close body v] at ho
    obtain ⟨name, hn⟩ := Option.isSome_iff_exists.mp ho
    refine ⟨name, ?_⟩
    have hlen : ('(' :: body ++ [')']).length + v.length = body.length + v.length + 2 := by
      simp only [List.length_append, List.length_cons, List.length_nil]
      omega
    rw [hlen, List.append_assoc, List.singleton_append, captures_silent hs, hn]
    rfl
  isTame v hv := by
    rw [List.append_assoc, List.singleton_append]
    exact isTame_silent hs hb ht hv

lemma isGroup_wrapped {body : List Char} (hs : isSilentFrom false body) (hb : '[' ∉ body)
    (ht : isTameOpening (body ++ [')'])) (ho : (opening (body ++ [')'])).capture? = none) :
    IsGroup ('(' :: ('(' :: body ++ [')']) ++ [')']) where
  captures_eq v := by
    refine ⟨none, ?_⟩
    have hv : (opening (body ++ ')' :: ')' :: v)).capture? = none := by
      rw [← Option.not_isSome_iff_eq_none, capture?_opening_append_close,
        Option.not_isSome_iff_eq_none]
      exact ho
    have hinner : captures (parens ('(' :: body ++ ')' :: ')' :: v)) = captures (parens v) := by
      rw [captures_silent hs, hv, parens_close, captures_cons]
      rfl
    have ho : opening ('(' :: body ++ ')' :: ')' :: v) = .capture none := rfl
    have hlen : ('(' :: body ++ ')' :: ')' :: v).length + 1 =
        ('(' :: ('(' :: body ++ [')']) ++ [')']).length + v.length := by
      simp only [List.length_append, List.length_cons, List.length_nil]
      omega
    calc captures (parens ('(' :: ('(' :: body ++ [')']) ++ [')'] ++ v))
        = captures (parens ('(' :: ('(' :: body ++ ')' :: ')' :: v))) := by simp
      _ = _ := by rw [parens_open, captures_cons, hinner, ho, hlen]; rfl
  isTame v hv := by
    have hinner := isTame_silent hs hb ht ((isTame_close v).mpr hv)
    have : IsTame ('(' :: ('(' :: body ++ ')' :: ')' :: v)) := by
      rw [isTame_open]
      exact ⟨rfl, hinner⟩
    simpa using this

/-- The capture of a parameter that does not show another kind of extension than the text of a path
may have. -/
def Param.IsPlain (p : Param) : Prop :=
  ∀ own, p.capture = some own → ∃ body, own = '(' :: body ++ [')'] ∧ ')' ∉ body ∧ '[' ∉ body ∧
    IsTame own

/-- The capture of a parameter makes one group. -/
theorem capture_eq_ok {p : Param} {text : List Char} {n : Nat} (hp : p.IsPlain)
    (h : Pattern.capture p = .ok (text, n)) :
    text = p.captureText ∧ n = 1 ∧ IsGroup p.captureText := by
  unfold Pattern.capture at h
  unfold Param.captureText
  cases hc : p.capture with
  | none =>
    rw [hc] at h
    cases h
    refine ⟨rfl, rfl, ?_⟩
    dsimp only
    split
    · exact isGroup_formatCapture
    · exact isGroup_segmentCapture
  | some own =>
    obtain ⟨body, rfl, hb, hbr, ht⟩ := hp own hc
    rw [hc] at h
    dsimp only at h ⊢
    cases hr : compile {} (String.ofList ('(' :: body ++ [')'])) with
    | error e =>
      rw [hr] at h
      cases h
    | ok r =>
      rw [hr] at h
      obtain ⟨hs, hcount⟩ := compile_single hr rfl hb ht
      have hopen : isTameOpening (body ++ [')']) := ((isTame_open _).mp ht).1
      have hcap : captures (parens ('(' :: body ++ [')'])) =
          ((opening (body ++ [')'])).capture?.map (body.length + 2, ·)).toList :=
         (captures_silent hs []).trans (List.append_nil _)
      cases ho : (opening (body ++ [')'])).capture? with
      | none =>
        rw [ho] at hcount hcap
        simp only [Option.toList_none, List.length_nil] at hcount
        simp only [hcount, if_true] at h
        cases h
        simp only [hcap, Option.map_none, Option.toList_none, if_true]
        exact ⟨trivial, trivial, isGroup_wrapped hs hbr hopen ho⟩
      | some name =>
        rw [ho] at hcount hcap
        simp only [Option.toList_some, List.length_singleton] at hcount
        simp only [hcount, Nat.one_ne_zero, if_false] at h
        cases h
        simp only [hcap, Option.map_some, Option.toList_some, List.cons_ne_nil, if_false]
        exact ⟨trivial, trivial, isGroup_single hs hbr hopen (by simp [ho])⟩

lemma captures_head (p : Param) (v : List Char) :
    captures (parens (p.head ++ v)) = captures (parens v) := by
  unfold Param.head
  cases p.optional <;> cases p.slash <;> cases p.dot <;> rfl

lemma isTame_head (p : Param) {v : List Char} (hv : IsTame v) : IsTame (p.head ++ v) := by
  unfold Param.head
  cases p.optional <;> cases p.slash <;> cases p.dot <;> exact hv

lemma captures_foot (p : Param) (v : List Char) : captures (parens (p.foot ++ v)) =
    (if p.star then [(Pattern.trailingCapture.length + v.length, none)] else []) ++
      captures (parens v) := by
  unfold Param.foot
  rw [Nat.add_comm]
  cases p.optional <;> cases p.star <;> rfl

lemma isTame_foot (p : Param) {v : List Char} (hv : IsTame v) : IsTame (p.foot ++ v) := by
  unfold Param.foot
  cases p.optional <;> cases p.star <;> exact hv

/-- The capture groups of a parameter are its capture and its star. -/
lemma origins_param {p : Param} (hg : IsGroup p.captureText) (k : Nat) :
    (Fragment.param p).origins k = (p.captureText.length + p.foot.length + k, .capture p) ::
      (if p.star then [(Pattern.trailingCapture.length + k, .trailing p)] else []) := by
  obtain ⟨name, hn⟩ := hg.captures_eq []
  rw [List.append_nil] at hn
  have htail : (captures (parens p.captureText)).tail = [] := by
    rw [hn]
    rfl
  simp [Fragment.origins, htail]

lemma map_origins {p : Param} (hg : IsGroup p.captureText) (k : Nat) :
    ((Fragment.param p).origins k).map (·.2.slot) =
      ⟨some (String.ofList p.name), p.optional⟩ :: if p.star then [⟨none, true⟩] else [] := by
  rw [origins_param hg]
  cases p.star <;> rfl

lemma map_slot_origins {f : Fragment} (hf : ∀ p, f = .param p → IsGroup p.captureText) (k : Nat) :
    (f.origins k).map (·.2.slot) = (f.origins 0).map (·.2.slot) := by
  cases f with
  | param p => rw [map_origins (hf p rfl), map_origins (hf p rfl)]
  | escape | dot | wildcard => rfl
  | group name => rfl

lemma captures_param {p : Param} (hg : IsGroup p.captureText) (v : List Char) :
    ∃ groups, captures (parens ((Fragment.param p).image ++ v)) = groups ++ captures (parens v) ∧
      List.Forall₂ Agrees groups ((Fragment.param p).origins v.length) := by
  obtain ⟨name, hn⟩ := hg.captures_eq (p.foot ++ v)
  refine ⟨(p.captureText.length + p.foot.length + v.length, name) ::
    (if p.star then [(Pattern.trailingCapture.length + v.length, none)] else []), ?_, ?_⟩
  · rw [Fragment.image, List.append_assoc, List.append_assoc, captures_head, hn, captures_foot,
      List.length_append, ← Nat.add_assoc, List.cons_append]
  · rw [origins_param hg]
    refine .cons ⟨rfl, fun _ h => by cases h⟩ ?_
    cases p.star
    · exact .nil
    · exact .cons ⟨rfl, fun _ h => by cases h⟩ .nil

lemma ofParam_eq_ok {p : Param} {e : List Char} {s : List Slot} (hp : p.IsPlain)
    (h : Pattern.ofParam p = .ok (e, s)) : IsGroup p.captureText ∧
      e = (Fragment.param p).image ∧ s = ((Fragment.param p).origins 0).map (·.2.slot) := by
  unfold Pattern.ofParam at h
  cases hc : Pattern.capture p with
  | error e =>
    rw [hc] at h
    cases h
  | ok r =>
    obtain ⟨text, n⟩ := r
    obtain ⟨rfl, rfl, hg⟩ := capture_eq_ok hp hc
    rw [hc] at h
    cases h
    refine ⟨hg, ?_, ?_⟩
    · cases ho : p.optional <;> cases hs : p.slash <;>
        simp [Fragment.image, Param.head, Param.foot, ho, hs]
    · rw [map_origins hg]
      rfl

lemma ofFragment_eq_ok {f : Fragment} {e : List Char} {s : List Slot}
    (hp : ∀ p, f = .param p → p.IsPlain) (h : Pattern.ofFragment f = .ok (e, s)) :
    (∀ p, f = .param p → IsGroup p.captureText) ∧ e = f.image ∧
      s = (f.origins 0).map (·.2.slot) := by
  cases f with
  | param p =>
    obtain ⟨hg, he, hs⟩ := ofParam_eq_ok (hp p rfl) h
    refine ⟨?_, he, hs⟩
    rintro _ ⟨⟩
    exact hg
  | escape | dot | wildcard =>
    cases h
    exact ⟨nofun, rfl, rfl⟩
  | group name =>
    cases h
    exact ⟨nofun, rfl, rfl⟩

/-- What is read as a fragment stays one: no question mark follows the opening of a group that has
no name, and the name of a group consists of letters. -/
structure Fragment.IsKept (f : Fragment) (v : List Char) : Prop where
  param : ∀ p, f = .param p → IsGroup p.captureText
  group : f = .group none → v.head? ≠ some '?'
  named : ∀ name, f = .group (some name) → Fragment.isName name

lemma opening_named {name : List Char} (hn : Fragment.isName name) (v : List Char) :
    opening (['?', 'P', '<'] ++ name ++ ['>'] ++ v) = .capture (some (String.ofList name)) ∧
      Skips (['?', 'P', '<'] ++ name ++ ['>'] ++ v) v := by
  have hword : ∀ c ∈ name, isInert c ∧ c ≠ '>' := by
    intro c hc
    simp only [Fragment.isName, Bool.and_eq_true, List.all_eq_true] at hn
    have hw := hn.2 c hc
    refine ⟨isInert_of (by decide) hw, ?_⟩
    rintro rfl
    exact absurd hw (by decide)
  constructor
  · have htake : (name ++ '>' :: v).takeWhile (· ≠ '>') = name := by
      rw [List.takeWhile_append_of_pos fun c hc => by simpa using (hword c hc).2]
      simp
    have : opening (['?', 'P', '<'] ++ name ++ ['>'] ++ v) =
        .capture (some (String.ofList ((name ++ '>' :: v).takeWhile (· ≠ '>')))) := by
      simp [opening]
    rw [this, htake]
  · refine .append ?_
    simp only [List.all_append, Bool.and_eq_true]
    exact ⟨⟨by decide, List.all_eq_true.mpr fun c hc => (hword c hc).1⟩, by decide⟩

lemma captures_fragment {f : Fragment} {v : List Char} (hf : f.IsKept v) :
    ∃ groups, captures (parens (f.image ++ v)) = groups ++ captures (parens v) ∧
      List.Forall₂ Agrees groups (f.origins v.length) := by
  cases f with
  | param p => exact captures_param (hf.param p rfl) v
  | escape c => exact ⟨[], rfl, .nil⟩
  | dot => exact ⟨[], rfl, .nil⟩
  | wildcard =>
    refine ⟨[("(.*)".length + v.length, none)], ?_, .cons ⟨rfl, fun _ h => by cases h⟩ .nil⟩
    rw [Nat.add_comm]
    rfl
  | group name =>
    cases name with
    | none =>
      refine ⟨[(1 + v.length, none)], ?_, .cons ⟨rfl, fun _ h => by cases h; rfl⟩ .nil⟩
      have hi : (Fragment.group none).image ++ v = '(' :: v := rfl
      rw [hi, parens_open, opening_of_ne (hf.group rfl), captures_cons, Nat.add_comm]
      rfl
    | some name =>
      obtain ⟨ho, hs⟩ := opening_named (hf.named name rfl) v
      have hi : (Fragment.group (some name)).image ++ v =
        '(' :: (['?', 'P', '<'] ++ name ++ ['>'] ++ v) := rfl
      have hlen : (['?', 'P', '<'] ++ name ++ ['>'] ++ v).length + 1 =
          (Fragment.group (some name)).write.length + v.length := by
        simp only [Fragment.write, List.length_append, List.length_cons, List.length_nil]
        omega
      refine ⟨[(_, some (String.ofList name))], ?_, .cons ⟨rfl, fun _ h => by cases h; rfl⟩ .nil⟩
      rw [hi, parens_open, captures_cons, ho, hs.parens_eq, hlen]
      rfl

lemma isTame_fragment {f : Fragment} {v : List Char} (hf : f.IsKept v) (hv : IsTame v) :
    IsTame (f.image ++ v) := by
  cases f with
  | param p =>
    rw [Fragment.image, List.append_assoc, List.append_assoc]
    exact isTame_head p ((hf.param p rfl).isTame _ (isTame_foot p hv))
  | escape c => exact hv
  | dot => exact hv
  | wildcard => exact hv
  | group name =>
    cases name with
    | none => exact (isTame_open v).mpr ⟨isTameOpening_of_ne (hf.group rfl), hv⟩
    | some name =>
      have hs := (opening_named (hf.named name rfl) v).2
      exact (isTame_open _).mpr ⟨rfl, hs.isTame_iff.mpr hv⟩

lemma isReadable_fragment {f : Fragment} {v : List Char} (hf : f.IsKept v) (k : Nat) :
    ∀ g ∈ f.origins k, g.2.isReadable := by
  intro g hm
  cases f with
  | param p =>
    rw [origins_param (hf.param p rfl)] at hm
    rcases List.mem_cons.mp hm with rfl | hm
    · rfl
    · split at hm
      · obtain rfl := List.mem_singleton.mp hm
        rfl
      · cases hm
  | escape | dot => simp [Fragment.origins] at hm
  | wildcard =>
    obtain rfl : g = _ := by simpa [Fragment.origins] using hm
    rfl
  | group own =>
    obtain rfl : g = _ := by simpa [Fragment.origins] using hm
    cases own with
    | none => rfl
    | some own =>
      have hn := hf.named own rfl
      simpa [Origin.isReadable] using hn

end ActionRouting.Path
