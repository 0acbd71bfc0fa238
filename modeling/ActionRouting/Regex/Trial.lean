import ActionRouting.Regex.Cursor

/-! Possessive repetition. It repeats its part as often as it can and never takes a repetition back.
Each repetition is a trial of its own, and one that fails leaves traces: matching goes on from where
the trial last stood, and what it noted of capture groups is undone only as far as told here. -/
namespace ActionRouting.Regex

/-- What the text of an expression begins with, as far as a choice looks ahead to it. -/
inductive Lead
  | nothing
  | char (code : Nat)
  | set (s : CharSet)
  | other
  deriving DecidableEq, Repr

namespace Lead

def excludesChar (s : Cursor) : Lead → Bool
  | .char code => !s.after.head?.any (·.toNat == code)
  | _ => false

def excludes (s : Cursor) : Lead → Bool
  | .set allowed => !s.after.head?.any allowed.contains
  | lead => lead.excludesChar s

def followedBy (lead next : Lead) : Lead :=
  match lead with
  | .nothing => next
  | lead => lead

end Lead

namespace Node

/-- What an expression begins with. -/
def lead : Node → Lead
  | .empty => .nothing
  | .chars set =>
    match set.literal? with
    | some code => .char code
    | none => if set.isListed then .set set else .other
  | .seq a b => a.lead.followedBy b.lead
  | _ => .other

def isChoice : Node → Bool
  | .alt _ _ => true
  | _ => false

end Node

/-- What is left of a trial that failed: the ends of capture groups, and the position where it last
stood. -/
structure Trace where
  groups : List Mark
  stand : Nat
  deriving DecidableEq, Repr

/-- A trial: where it came to, or what is left of it. -/
abbrev Trial := Except Trace Cursor

/-- The number of ends, in the order of their groups, up to the last that is known. -/
def knownEnds (groups : List Mark) : Nat :=
  groups.zipIdx.foldl (fun known (m, i) =>
    if m.stop.isSome then 2 * i + 2 else if m.start.isSome then 2 * i + 1 else known) 0

/-- Forgets all ends of capture groups but the first `known`. -/
def forgetEnds (known : Nat) (groups : List Mark) : List Mark :=
  groups.zipIdx.map fun (m, i) =>
    ⟨if 2 * i < known then m.start else none, if 2 * i + 1 < known then m.stop else none⟩

namespace Trace

/-- The trace of a trial begun at a cursor, once undone. In a loop the ends of all capture groups
are as they were before; elsewhere only those are forgotten that lie beyond all that were known. -/
def undone (inLoop : Bool) (s : Cursor) (t : Trace) : Trace :=
  { t with groups := if inLoop then s.groups else forgetEnds (knownEnds s.groups) t.groups }

end Trace

namespace Trial

/-- A failure that leaves what was there before. -/
def fail (s : Cursor) (stand : Nat) : Trial := .error ⟨s.groups, stand⟩

/-- Goes on from the trace of a trial, if it failed. -/
def orElse (t : Trial) (next : Trace → Trial) : Trial :=
  match t with
  | .ok s => .ok s
  | .error trace => next trace

/-- A trial that undoes itself if it fails. -/
def undoing (t : Trial) (inLoop : Bool) (s : Cursor) : Trial :=
  t.orElse fun trace => .error (trace.undone inLoop s)

/-- A trial that ends at a position if it fails. -/
def standingAt (t : Trial) (pos : Nat) : Trial :=
  t.orElse fun trace => .error { trace with stand := pos }

end Trial

/-- What is to match after a part: it begins at a cursor, and knows where the trial last stood. -/
abbrev Goal := Cursor → Nat → Trial

/-- How a part matches in a trial, before a goal. -/
abbrev Course := Cursor → Nat → Goal → Trial

def Goal.done : Goal := fun s _ => .ok s

namespace Course

/-- Matches a part on its own: it either comes to an end or leaves a trace. -/
def alone (part : Course) (s : Cursor) : Trial := part s s.pos .done

/-- Tries positions in turn, those apart that `passes` over. -/
def tryEach (inLoop : Bool) (passes : Cursor → Bool) (goal : Goal) (s : Cursor) :
    List Cursor → Trace → Trial
  | [], trace => .error trace
  | c :: rest, trace =>
    if passes c then tryEach inLoop passes goal s rest trace
    else
      (goal { c with groups := trace.groups } c.pos).orElse fun trace =>
        tryEach inLoop passes goal s rest (trace.undone inLoop s)

/-- The positions that a repetition of a set may end at, most repetitions first, and where the trial
then stands. Where characters are compared one by one, that is after the last one taken. -/
def ends (set : CharSet) (lo : Nat) (hi : Option Nat) (s : Cursor) (stand : Nat) :
    List Cursor × Nat :=
  if s.after.length < lo then ([], stand)
  else
    let reached := Cursor.charRun set s.after hi s [s]
    (reached.take (reached.length - lo),
      if set.hasRelatives then s.pos + (reached.length - 1) else s.pos)

/-- Where a trial stands once it looked for one more character of a set. -/
def beyond (set : CharSet) (s : Cursor) : Nat :=
  if set.hasRelatives && s.after.head?.any set.contains then s.pos + 1 else s.pos

/-- A repetition of a set, many first or few first. -/
def charLoop (inLoop eager : Bool) (next : Lead) (set : CharSet) (lo : Nat) (hi : Option Nat) :
    Course :=
  fun s stand goal =>
    let (found, stand) := ends set lo hi s stand
    if eager then tryEach inLoop (next.excludesChar ·) goal s found ⟨s.groups, stand⟩
    else
      let goal : Goal := fun c stand => (goal c stand).standingAt (beyond set c)
      tryEach inLoop (fun _ => false) goal s found.reverse ⟨s.groups, stand⟩

/-- A repetition that prefers many. While fewer than the least number are done, nothing is
undone. -/
def manyFirst (part : Course) (goal : Goal) :
    Nat → Nat → Option Nat → Option Nat → Cursor → Trial
  | 0, _, _, _, s => .fail s s.pos
  | fuel + 1, least + 1, greatest, last, s =>
    (part s s.pos fun s' _ =>
      manyFirst part goal fuel least (greatest.map (· - 1)) last s').standingAt s.pos
  | fuel + 1, 0, greatest, last, s =>
    let enough (_ : Unit) := (goal s s.pos).standingAt s.pos
    if greatest = some 0 ∨ last = some s.pos then enough ()
    else
      (part s s.pos fun s' _ =>
        manyFirst part goal fuel 0 (greatest.map (· - 1)) (some s.pos) s').orElse fun _ =>
          enough ()

/-- A repetition that prefers few. -/
def fewFirst (inLoop : Bool) (part : Course) (goal : Goal) :
    Nat → Nat → Option Nat → Option Nat → Cursor → Trial
  | 0, _, _, _, s => .fail s s.pos
  | fuel + 1, least + 1, greatest, last, s =>
    (part s s.pos fun s' _ =>
      fewFirst inLoop part goal fuel least (greatest.map (· - 1)) last s').standingAt s.pos
  | fuel + 1, 0, greatest, last, s =>
    (((goal s s.pos).undoing inLoop s).orElse fun trace =>
      if greatest = some 0 ∨ last = some s.pos then .error trace
      else
        part { s with groups := trace.groups } s.pos fun s' _ =>
          fewFirst inLoop part goal fuel 0 (greatest.map (· - 1)) (some s.pos) s').standingAt s.pos

/-- The least number of a possessive repetition. -/
def atLeast (part : Course) : Nat → Cursor → Trial
  | 0, s => .ok s
  | n + 1, s => (alone part s).bind (atLeast part n)

/-- What a possessive repetition adds to its least number: repetitions up to the first that fails,
or that takes nothing. The ends of capture groups are then as before the failure. The position
should be, too; but the engine that is followed here forgets to go back, and goes on from where the
failed trial last stood. -/
def further (part : Course) : Nat → Option Nat → Option Nat → Cursor → Cursor
  | 0, _, _, s => s
  | fuel + 1, greatest, last, s =>
    if greatest = some 0 ∨ last = some s.pos then s
    else
      match alone part s with
      | .ok s' => further part fuel (greatest.map (· - 1)) (some s.pos) s'
      | .error trace => s.moveTo trace.stand

/-- Enough steps for any repetition: those that are needed, one for each place in the text, and the
last. -/
def fuel (least : Nat) (s : Cursor) : Nat := least + s.length + 2

def possess (part : Course) (lo : Nat) (hi : Option Nat) (s : Cursor) : Trial :=
  ((atLeast part lo s).standingAt s.pos).map
    (further part (fuel 0 s) (hi.map (· - lo)) none)

end Course

namespace Node

/-- How an expression matches in a trial. `next` is what the text after it begins with. -/
def course (inLoop : Bool) : Lead → Node → Course
  | _, .empty, s, stand, goal => goal s stand
  | _, .chars set, s, stand, goal =>
    match s.next? with
    | some (c, s') => if set.contains c then goal s' stand else .fail s stand
    | none => .fail s stand
  | next, .seq a b, s, stand, goal =>
    a.course inLoop (b.lead.followedBy next) s stand fun s' stand =>
      b.course inLoop next s' stand goal
  | next, .alt a b, s, stand, goal =>
    let first : Trial :=
      if a.lead.excludes s then .fail s stand
      else (a.course inLoop .other s s.pos goal).undoing inLoop s
    first.orElse fun trace =>
      let s := { s with groups := trace.groups }
      if b.isChoice then b.course inLoop next s trace.stand goal
      else if b.lead.excludes s then .error trace
      else (b.course inLoop .other s s.pos goal).undoing inLoop s
  | _, .group index a, s, stand, goal =>
    a.course inLoop .other (s.enter index) stand fun s' stand => goal (s'.leave index) stand
  | next, .loop eager lo hi a, s, stand, goal =>
    match a.chars? with
    | some set => Course.charLoop inLoop eager next set lo hi s stand goal
    | none =>
      let part := a.course true .other
      if eager then Course.manyFirst part goal (Course.fuel lo s) lo hi none s
      else Course.fewFirst inLoop part goal (Course.fuel lo s) lo hi none s
  | _, .possessive _ lo hi a, s, stand, goal =>
    match a.chars? with
    | some set =>
      let (found, stand) := Course.ends set lo hi s stand
      found.head?.elim (.fail s stand) fun s' => goal s' s'.pos
    | none => (Course.possess (a.course inLoop .other) lo hi s).bind fun s' => goal s' s'.pos
  | _, .anchor condition, s, stand, goal =>
    if condition.holds s then goal s stand else .fail s stand
  | _, .again index casing, s, stand, goal =>
    match (s.captured? index).bind fun text => s.takeText casing text with
    | some s' => goal s' stand
    | none => .fail s stand
  | _, .look _ true .empty, s, stand, _ => .fail s stand
  | _, .look back negated a, s, stand, goal =>
    match s.back? (back.getD 0) with
    | none => if negated then goal s stand else .fail s stand
    | some from_ =>
      match Course.alone (a.course inLoop .other) from_, negated with
      | .ok s', false => goal { s with groups := s'.groups } s'.pos
      | .ok s', true => .fail s' s'.pos
      | .error trace, false => .error trace
      | .error trace, true =>
        let trace := trace.undone inLoop s
        goal { s with groups := trace.groups } trace.stand
  | _, .atomic a, s, _, goal =>
    ((Course.alone (a.course inLoop .other) s).standingAt s.pos).bind fun s' => goal s' s'.pos
  | next, .ifGroup index yes no, s, stand, goal =>
    if s.took index then yes.course inLoop (if no = .empty then next else .other) s stand goal
    else no.course inLoop next s stand goal

end Node

end ActionRouting.Regex
