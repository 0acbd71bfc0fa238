import Mathlib.Data.List.TakeWhile
import ActionRouting.Proofs.Path.Alternatives
import ActionRouting.Proofs.Text.Percent
import ActionRouting.Router.Dispatch

/-! A path of segments that is filled with values, found again by its own pattern: the parameters
are the values it was filled with. -/
namespace ActionRouting

namespace Path

open Text Regex

/-- A parameter is given a text: its value is there, is not nothing and shows something, without a
dot where the parameter stands after one. -/
def IsGiven (named : OrderedMap Value) (p : Param) : Prop :=
  ∃ v, OrderedMap.get? (String.ofList p.name) named = some v ∧ v.isNull = false ∧
    v.display ≠ "" ∧ (p.dot → '.' ∉ v.display.toList)

def shown (named : OrderedMap Value) (name : List Char) : String :=
  (OrderedMap.get? (String.ofList name) named).elim "" Value.display

/-- What stands in a filled path for a name. -/
def quoted (named : OrderedMap Value) (name : List Char) : List Char :=
  Percent.encodeSegment (shown named name).toList

def givenPairs (named : OrderedMap Value) (ps : List (Piece Param)) : List (String × String) :=
  ps.filterMap fun
    | .plain _ => none
    | .token p => some (String.ofList p.name, shown named p.name)

/-- A specification of which the path of some segments is built: that path alone, or several paths
of which it is the first. -/
inductive Builds (segments : List Segment) : PathSpec → Prop
  | text : (∀ g ∈ segments, g.isValid) →
      Builds segments (.text (String.ofList (writePath segments)))
  | alternatives {rest : List (List Segment)} :
      (∀ path ∈ segments :: rest, ∀ g ∈ path, g.isValid) →
      Builds segments (.alternatives ((segments :: rest).map (String.ofList ∘ writePath)))

/-- Without regard to case, the first of several paths is lost. -/
def Loses (caseSensitive : Bool) : PathSpec → Prop
  | .alternatives (first :: rest) =>
    caseSensitive = false ∧ IsLost first.toList (rest.map String.toList)
  | _ => False

lemma loses_alternatives {caseSensitive : Bool} {segments : List Segment}
    {rest : List (List Segment)} :
    Loses caseSensitive (.alternatives ((segments :: rest).map (String.ofList ∘ writePath))) ↔
      caseSensitive = false ∧ IsLost (writePath segments) (rest.map writePath) := by
  rw [List.map_cons, Loses, List.map_map]
  simp [Function.comp_def]

lemma Builds.isDefault {segments : List Segment} {spec : PathSpec} (hb : Builds segments spec) :
    (pathPieces segments).all isDefault := by
  cases hb with
  | text hg => exact isDefault_path hg
  | alternatives hg => exact isDefault_path (hg segments List.mem_cons_self)

section Filling

variable {named : OrderedMap Value} {p : Param} {ps : List (Piece Param)} {segments : List Segment}

lemma IsGiven.fillParam_eq (h : IsGiven named p) :
    fillParam named p = p.lead ++ quoted named p.name := by
  obtain ⟨v, hv, hnull, -⟩ := h
  have hgiven : given? named (String.ofList p.name) = some v := by
    rw [given?, hv]
    cases v with
    | null => cases hnull
    | _ => rfl
  rw [fillParam, hgiven, quoted, shown, hv]
  rfl

lemma IsGiven.fits (h : IsGiven named p) : p.Fits (quoted named) := by
  obtain ⟨v, hv, -, hne, hdot⟩ := h
  have hshown : shown named p.name = v.display := by rw [shown, hv]; rfl
  have hchars {c : Char} (hc : Percent.isSegmentChar c = false) : c ∉ quoted named p.name := by
    intro hm
    rw [(Percent.mem_encodeSegment hm).1] at hc
    cases hc
  refine ⟨Percent.encodeSegment_ne_nil ?_, hchars (by decide), hchars (by decide), ?_⟩
  · rw [hshown]
    exact fun h => hne (String.toList_eq_nil_iff.mp h)
  · intro hd hm
    rw [quoted, hshown] at hm
    exact hdot hd ((Percent.mem_encodeSegment hm).2 rfl)

def AllGiven (named : OrderedMap Value) (ps : List (Piece Param)) : Prop :=
  ∀ p, .token p ∈ ps → IsGiven named p

lemma textOf_fillParam (h : AllGiven named ps) :
    textOf (fillParam named) ps = filled (quoted named) ps := by
  induction ps with
  | nil => rfl
  | cons q ps ih =>
    have ih := ih fun p hp => h p (List.mem_cons_of_mem _ hp)
    cases q with
    | plain c => exact congrArg (c :: ·) ih
    | token p =>
      have hp := (h p List.mem_cons_self).fillParam_eq
      change fillParam named p ++ textOf (fillParam named) ps = _
      rw [hp, ih]
      rfl

def isPathChar (c : Char) : Bool :=
  isLiteral c || c == '/' || c == '.' || Percent.isSegmentChar c

lemma mem_filled (hp : ps.all isDefault) {c : Char} (h : c ∈ filled (quoted named) ps) :
    isPathChar c := by
  obtain ⟨q, hq, hc⟩ := List.mem_flatMap.mp h
  have hd := List.all_eq_true.mp hp q hq
  cases q with
  | plain d =>
    obtain rfl := List.mem_singleton.mp hc
    rw [isDefault] at hd
    simp [isPathChar, hd]
  | token p =>
    rcases List.mem_append.mp hc with hc | hc
    · have hlead : c = '/' ∨ c = '.' := by
        rcases List.mem_append.mp hc with hc | hc
        · split at hc
          · exact .inl (List.mem_singleton.mp hc)
          · cases hc
        · split at hc
          · exact .inr (List.mem_singleton.mp hc)
          · cases hc
      rcases hlead with rfl | rfl <;> decide
    · have := (Percent.mem_encodeSegment hc).1
      simp [isPathChar, this]

lemma not_mem_filled (hp : ps.all isDefault) {c : Char} (h : isPathChar c = false) :
    c ∉ filled (quoted named) ps := by
  intro hm
  rw [mem_filled hp hm] at h
  cases h

/-- A path is filled with what its parameters are given. -/
theorem fill_given (hg : ∀ g ∈ segments, g.isValid) (h : AllGiven named (pathPieces segments))
    (positional : List Value) : fill named positional (writePath segments) =
      filled (quoted named) (pathPieces segments) := by
  have htext := textOf_fillParam h
  have hstar : '*' ∉ filled (quoted named) (pathPieces segments) :=
    not_mem_filled (isDefault_path hg) (by decide)
  rw [← htext] at hstar ⊢
  exact fill_path (isOver_of_isValid hg) named positional hstar

lemma stripQuery_of_not_mem {cs : List Char} (hquery : '?' ∉ cs) (hhash : '#' ∉ cs) :
    stripQuery cs = cs := by
  rw [stripQuery, List.takeWhile_eq_self_iff]
  intro c hc
  have hq : c ≠ '?' := fun he => hquery (he ▸ hc)
  have hh : c ≠ '#' := fun he => hhash (he ▸ hc)
  simp [hq, hh]

/-- A filled path has no query and no fragment. -/
lemma stripQuery_filled (hp : ps.all isDefault) :
    stripQuery (filled (quoted named) ps) = filled (quoted named) ps :=
  stripQuery_of_not_mem (not_mem_filled hp (by decide)) (not_mem_filled hp (by decide))

/-- The slots of a path take the values of its parameters. Those of other paths after it take
nothing. -/
lemma filterMap_zip_slotsOf (ps : List (Piece Param)) (more : List Slot) (k : Nat) :
    ((slotsOf ps ++ more).zip
      (((valuesOf (quoted named) ps).map some ++ List.replicate k none).map
        (Option.map fun text => String.ofList (Percent.decode text)))).filterMap
      (fun p => do return (← p.1.name, ← p.2)) = givenPairs named ps := by
  induction ps with
  | nil =>
    refine List.filterMap_eq_nil_iff.mpr fun p hp => ?_
    have hnone : p.2 = none := by
      have := (List.of_mem_zip (a := p.1) (b := p.2) hp).2
      simp only [valuesOf, List.filterMap_nil, List.map_nil, List.nil_append, List.map_replicate,
        Option.map_none] at this
      exact List.eq_of_mem_replicate this
    rw [hnone]
    cases p.1.name <;> rfl
  | cons q ps ih =>
    cases q with
    | plain c => exact ih
    | token p =>
      have hdecode : String.ofList (Percent.decode (quoted named p.name)) = shown named p.name := by
        rw [quoted, Percent.decode_encodeSegment, String.ofList_toList]
      exact congrArg₂ (fun text pairs => (String.ofList p.name, text) :: pairs) hdecode ih

/-- The parameters that a match gives, where the parameters of a path took their values. -/
lemma paramsOf_decodeGroups {m : Regex.Match} {path : List Char} (more : List Slot) (k : Nat)
    (h : m.texts path = (valuesOf (quoted named) ps).map some ++ List.replicate k none) :
    paramsOf (slotsOf ps ++ more) (decodeGroups m path) = .ofPairs (givenPairs named ps) := by
  rw [paramsOf, decodeGroups, h, filterMap_zip_slotsOf]

/-- The same, where a group around all the paths comes first. -/
lemma paramsOf_decodeGroups_cons {m : Regex.Match} {path t : List Char} (more : List Slot) (k : Nat)
    (h : m.texts path =
      some t :: ((valuesOf (quoted named) ps).map some ++ List.replicate k none)) :
    paramsOf ({} :: (slotsOf ps ++ more)) (decodeGroups m path) =
      .ofPairs (givenPairs named ps) := by
  rw [paramsOf, decodeGroups, h, List.map_cons, List.zip_cons_cons, List.filterMap_cons_none rfl,
    filterMap_zip_slotsOf]

lemma mem_slashed (h : .token p ∈ ps) : ∃ slash, .token { p with slash } ∈ slashed ps := by
  cases ps with
  | nil => cases h
  | cons q ps =>
    cases q with
    | plain c => exact ⟨p.slash, List.mem_cons_of_mem _ h⟩
    | token p' =>
      rcases List.mem_cons.mp h with he | h
      · cases he
        exact ⟨true, List.mem_cons_self⟩
      · exact ⟨p.slash, List.mem_cons_of_mem _ h⟩

/-- What is given fits. -/
lemma AllGiven.fits (h : AllGiven named (pathPieces segments)) :
    ∀ g ∈ segments, g.Fits (quoted named) := by
  intro g hg p hp
  obtain ⟨slash, hs⟩ := mem_slashed hp
  have hfits := (h _ (List.mem_flatMap.mpr ⟨g, hg, hs⟩)).fits
  exact ⟨hfits.ne_nil, hfits.no_slash, hfits.no_line, hfits.no_dot⟩

/-- What is cut into parts is written as they are. -/
lemma eq_textOf_write {before : Option Char} {cs : List Char}
    (h : Param.scanner.Cuts before cs ps) : cs = textOf Param.write ps := by
  induction h with
  | nil => rfl
  | @plain _ c _ _ _ _ ih => exact congrArg (c :: ·) ih
  | @token _ p _ _ _ _ ih => exact congrArg (p.write ++ ·) ih

lemma writePath_eq_textOf (hg : ∀ g ∈ segments, g.isValid) :
    writePath segments = textOf Param.write (pathPieces segments) := by
  have h := Param.scanner_isFaithful.cuts none (writePath segments)
  rw [← Scanner.pieces, pieces_path (isOver_of_isValid hg)] at h
  exact eq_textOf_write h

lemma textOf_plains (f : Param → List Char) (u : List Char) : textOf f (u.map .plain) = u := by
  rw [textOf, List.flatMap_map]
  exact List.flatMap_singleton' u

end Filling

lemma not_mem_plains {u : List Char} {c : Char}
    (h : ((u ++ [c]).map (Piece.plain (τ := Param))).all isDefault) : ':' ∉ u := by
  intro hm
  have := List.all_eq_true.mp h (.plain ':')
    (List.mem_map.mpr ⟨':', List.mem_append_left _ hm, rfl⟩)
  exact absurd this (by decide)

/-- Paths that differ in their last characters are written so. -/
lemma isLost_of_pieces {segments : List Segment} {rest : List (List Segment)} {u ds : List Char}
    {c : Char} (hg : ∀ path ∈ segments :: rest, ∀ g ∈ path, g.isValid)
    (hps : pathPieces segments = (u ++ [c]).map .plain)
    (hrest : rest.map pathPieces = ds.map fun d => (u ++ [d]).map .plain)
    (hd : ∃ d ∈ ds, d ≠ c) (hplane : planeEnd < c.toNat) (hne : lowerChar c ≠ c)
    (hlower : lowerChar c ∉ ds) : IsLost (writePath segments) (rest.map writePath) := by
  have hfirst := hg segments List.mem_cons_self
  refine ⟨u, c, ds, not_mem_plains (c := c) ?_, ?_, ?_, hd, hplane, hne, hlower⟩
  · rw [← hps]
    exact isDefault_path hfirst
  · rw [writePath_eq_textOf hfirst, hps, textOf_plains]
  · have hwrite : rest.map writePath = (rest.map pathPieces).map (textOf Param.write) := by
      rw [List.map_map]
      refine List.map_congr_left fun path hp => ?_
      exact writePath_eq_textOf (hg path (List.mem_cons_of_mem _ hp))
    rw [hwrite, hrest, List.map_map]
    exact List.map_congr_left fun d _ => textOf_plains _ _

/-- The pattern of a specification finds the path that is built of it, unless it is lost, and the
parameters are what they were given. -/
theorem search_filled {caseSensitive strict : Bool} {segments : List Segment} {spec : PathSpec}
    {pattern : Pattern} {named : OrderedMap Value} (hb : Builds segments spec)
    (hc : Pattern.compile caseSensitive strict spec = .ok pattern)
    (hl : ¬ Loses caseSensitive spec) (h : AllGiven named (pathPieces segments)) :
    ∃ m, pattern.matcher.search (filled (quoted named) (pathPieces segments)) = some m ∧
      m.isCrossed = false ∧
      paramsOf pattern.slots (decodeGroups m (filled (quoted named) (pathPieces segments))) =
        .ofPairs (givenPairs named (pathPieces segments)) := by
  cases hb with
  | text hg =>
    rw [compile_segments caseSensitive strict (isOver_of_isValid hg)] at hc
    cases hc
    obtain ⟨m, hm, hx, ht⟩ := search_tight strict (expression (pathPieces segments))
      (isTight_path hg h.fits)
    refine ⟨m, hm, hx, ?_⟩
    have := paramsOf_decodeGroups [] 0 (ht.trans (List.append_nil _).symm)
    rwa [List.append_nil] at this
  | @alternatives rest hg =>
    have hfirst := hg segments List.mem_cons_self
    rw [compile_joint caseSensitive strict (fun path hp => isOver_of_isValid (hg path hp))] at hc
    cases hc
    have hkept (u : List Char) (c : Char) (ds : List Char)
        (hps : pathPieces segments = (u ++ [c]).map .plain)
        (hrest : rest.map pathPieces = ds.map fun d => (u ++ [d]).map .plain)
        (hcase : (!caseSensitive) = true) (hd : ∃ d ∈ ds, d ≠ c) (hplane : planeEnd < c.toNat)
        (hne : lowerChar c ≠ c) : lowerChar c ∈ ds := by
      by_contra hlower
      have hlost := isLost_of_pieces hg hps hrest hd hplane hne hlower
      exact hl (loses_alternatives.mpr ⟨by simpa using hcase, hlost⟩)
    obtain ⟨m, t, hm, hx, ht⟩ := search_joint strict
      (jointExpression ((segments :: rest).map pathPieces)) (isTight_path hfirst h.fits)
      ((rest.map pathPieces).flatMap slotsOf).length hkept
    refine ⟨m, ?_, hx, paramsOf_decodeGroups_cons _ _ ht⟩
    have hcount : (({} : Slot) :: ((segments :: rest).map pathPieces).flatMap slotsOf).length =
        holesOf (pathPieces segments) + ((rest.map pathPieces).flatMap slotsOf).length + 1 := by
      simp [holesOf]
    rw [← hm, patternOf, hcount]
    rfl

end Path

end ActionRouting
