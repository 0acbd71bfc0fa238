import ActionRouting.Proofs.Path.Places
import ActionRouting.Proofs.Router.OneMoreRoute
import ActionRouting.Proofs.Router.SoleRoute

/-! What a collection serves. A router with nothing but a collection knows the places of it that
some action serves, and no other path. A place answers the verbs of its actions, and `HEAD` as it
does `GET`; it allows no more verbs than these. -/
namespace ActionRouting

open ActionRouting.Path

namespace Path.Spot

/-- The verbs of a place, each with the row of the resource that it is for. -/
def rows : Spot → List (Verb × String)
  | itself => [(.get, "list"), (.post, "create")]
  | fresh => [(.get, "new")]
  | item => [(.get, "show"), (.put, "update"), (.patch, "update"), (.delete, "destroy")]
  | editing => [(.get, "edit")]

/-- The row that a verb is for at a place. -/
def key? : Spot → Verb → Option String
  | itself, .get => some "list"
  | itself, .post => some "create"
  | fresh, .get => some "new"
  | item, .get => some "show"
  | item, .put | item, .patch => some "update"
  | item, .delete => some "destroy"
  | editing, .get => some "edit"
  | _, _ => none

/-- The row that answers a verb at a place: `HEAD` is answered as `GET` is. -/
def answer? (spot : Spot) (v : Verb) : Option String := spot.key? (if v = .head then .get else v)

/-- All kinds of places, in the order of their rows. -/
def all : List Spot := [itself, fresh, item, editing]

end Path.Spot

/-- A collection: a controller that is mounted at a path, with the names of its actions. Case
matters in its paths, and each action that the controller has for it has a name. -/
structure Collection where
  config : RouterConfig
  base : List Char
  target : Target
  name : String → String
  caseSensitive : config.caseSensitive.truthy
  isBase_base : isBase base
  resourceAction_eq : ∀ key ∈ resourceKeys, config.resourceAction key = .ok (.text (name key))
  name_ne : ∀ key ∈ resourceKeys, (target.handler? (name key)).isSome → name key ≠ ""

namespace Collection

variable (c : Collection)

/-- The rows of the collection are registered with a router that has no routes. -/
def bound : Progress :=
  ({ config := c.config } : Router).resources (.text (String.ofList c.base)) c.target (.text ":id")

def router : Router := c.bound.router

def exposes (key : String) : Bool := (c.target.handler? (c.name key)).isSome

/-- A verb was registered for a place. -/
def serves (spot : Spot) (v : Verb) : Bool := (spot.key? v).any c.exposes

def isServed (spot : Spot) : Bool := spot.rows.any fun row => c.exposes row.2

/-- A path leads to a place that is served. The word of a new item is an item only if there is no
action for new items. -/
structure Leads (spot : Spot) (xs : List (List Char)) (path : List Char) : Prop where
  isAt : IsAt c.base spot xs path
  served : c.isServed spot
  not_fresh : spot = .item → xs = [newWord] → c.exposes "new" = false

def pattern (spot : Spot) : Pattern :=
  spot.pattern c.config.caseSensitive.truthy c.config.strictSlashes.truthy c.base

def made (spot : Spot) (row : Verb × String) : Option Registration :=
  (c.target.handler? (c.name row.2)).map fun handler =>
    ⟨row.1, c.pattern spot, c.target, c.name row.2, handler⟩

def log : List Registration := Spot.all.flatMap fun spot => spot.rows.filterMap (c.made spot)

/-! ### How the rows are registered -/

def row (spot : Spot) (row : Verb × String) : ResourceRow :=
  ⟨row.2, row.1, .text (String.ofList (atomPath (spot.atoms c.base)))⟩

lemma collectionRows_eq : collectionRows (.text (String.ofList c.base)) (.text ":id") =
    Spot.all.flatMap fun spot => spot.rows.map (c.row spot) := by
  have hpath (spot : Spot) : String.ofList (atomPath (spot.atoms c.base)) =
      String.ofList c.base ++ String.ofList (atomPath spot.ending) := by
    rw [Spot.atoms, atomPath_append, atomPath_literally, String.ofList_append]
  have hfresh : String.ofList (atomPath Spot.fresh.ending) = "/new" := by decide
  have hitem : String.ofList (atomPath Spot.item.ending) = "/" ++ ":id" := by decide
  have hediting : String.ofList (atomPath Spot.editing.ending) = "/" ++ ":id" ++ "/edit" := by
    decide
  have hitself : String.ofList (atomPath Spot.itself.ending) = "" := by decide
  simp only [collectionRows, PathSpec.ofValue, Value.display, Spot.all, Spot.rows, row, hpath,
    hfresh, hitem, hediting, hitself, List.flatMap_cons, List.flatMap_nil, List.map_cons,
    List.map_nil, List.cons_append, List.nil_append, String.append_assoc, String.append_empty]

lemma mem_resourceKeys {spot : Spot} {p : Verb × String} (hp : p ∈ spot.rows) :
    p.2 ∈ resourceKeys := by
  have : ∀ spot : Spot, ∀ p ∈ spot.rows, p.2 ∈ resourceKeys := by
    intro spot
    cases spot <;> decide
  exact this spot p hp

lemma prepareRow_row {r : Router} (hr : r.config = c.config) {spot : Spot} {p : Verb × String}
    (hp : p ∈ spot.rows) : r.prepareRow c.target (c.row spot p) = .ok (c.made spot p) := by
  have hkey := mem_resourceKeys hp
  have hcompile : r.compile (c.row spot p).path = .ok (c.pattern spot) := by
    rw [Router.compile, hr]
    exact compile_atoms _ _ (isAtomic_spot c.isBase_base spot)
  have hverb : Router.readVerb (.text p.1.name) = .ok p.1 := by
    cases p.1 <;> rfl
  rw [Router.prepareRow, hr, row, c.resourceAction_eq _ hkey]
  cases hh : c.target.handler? (c.name p.2) with
  | none => simp [Router.readAction, hh, made, pure, Except.pure]
  | some handler =>
    have hname : c.name p.2 ≠ "" := c.name_ne _ hkey (by rw [hh]; rfl)
    have horElse : (Value.text (c.name p.2)).orElse (.text "show") = .text (c.name p.2) := by
      simp [Value.orElse, Value.truthy, hname]
    have hprepare : r.prepare (c.row spot p).path c.target (.text (c.name p.2)) (.text p.1.name) =
        .ok ⟨p.1, c.pattern spot, c.target, c.name p.2, handler⟩ := by
      simp only [Router.prepare, horElse, hverb, Router.readAction, hh, hcompile, Value.display,
        Result.ok_bind]
      rfl
    simp only [Router.readAction, hh, Result.ok_bind, made, Option.map_some]
    rw [show (.text (String.ofList (atomPath (spot.atoms c.base))) : PathSpec) =
      (c.row spot p).path from rfl, hprepare]
    rfl

end Collection

namespace Router

variable {r : Router} {target : Target} {rows : List ResourceRow}

/-- Rows of which none fails are registered without a fault. -/
lemma fault_addRows (h : ∀ row ∈ rows, ∃ made, r.prepareRow target row = .ok made) {p : Progress}
    (hp : p.router.config = r.config) : (addRows target p rows).fault = p.fault := by
  induction rows generalizing p with
  | nil => rfl
  | cons row rows ih =>
    obtain ⟨⟨made, hmade⟩, hrows⟩ := List.forall_mem_cons.mp h
    rw [addRows, prepareRow_congr hp, hmade]
    cases made with
    | none => exact ih hrows hp
    | some g => exact ih (p := { p with router := p.router.add g, notices := _ }) hrows hp

/-- What rows complete of which none fails. -/
lemma completed_map {α : Type} {items : List α} {f : α → ResourceRow}
    (made : α → Option Registration)
    (h : ∀ a ∈ items, r.prepareRow target (f a) = .ok (made a)) :
    r.completed target (items.map f) = items.filterMap made := by
  induction items with
  | nil => rfl
  | cons a items ih =>
    obtain ⟨ha, hitems⟩ := List.forall_mem_cons.mp h
    rw [List.map_cons, completed, ha, List.filterMap_cons]
    cases made a with
    | none => exact ih hitems
    | some g => exact congrArg (g :: ·) (ih hitems)

end Router

namespace Collection

variable (c : Collection)

/-- No row of the collection fails. -/
lemma fault_bound : c.bound.fault = none := by
  rw [bound, Router.resources, collectionRows_eq]
  refine Router.fault_addRows (r := { config := c.config }) (fun row hrow => ?_) rfl
  obtain ⟨spot, -, hrow⟩ := List.mem_flatMap.mp hrow
  obtain ⟨p, hp, rfl⟩ := List.mem_map.mp hrow
  exact ⟨_, c.prepareRow_row rfl hp⟩

/-- The rows of the collection make its log. -/
lemma router_eq : c.router = .replay c.config c.log := by
  have hcompleted : ({ config := c.config } : Router).completed c.target
      (Spot.all.flatMap fun spot => spot.rows.map (c.row spot)) = c.log := by
    have hitems : (Spot.all.flatMap fun spot => spot.rows.map (c.row spot)) =
        (Spot.all.flatMap fun spot => spot.rows.map (spot, ·)).map fun t => c.row t.1 t.2 := by
      simp [List.map_flatMap, Function.comp_def]
    rw [hitems, Router.completed_map (fun t => c.made t.1 t.2) fun t ht => ?_, log]
    · simp [List.filterMap_flatMap, List.filterMap_map]
    · obtain ⟨spot, -, ht⟩ := List.mem_flatMap.mp ht
      obtain ⟨p, hp, rfl⟩ := List.mem_map.mp ht
      exact c.prepareRow_row rfl hp
  rw [router, bound, Router.resources, Router.router_addRows, collectionRows_eq, hcompleted]
  rfl

/-! ### What the log has -/

variable {c} {spot spot' : Spot} {v u : Verb} {g : Registration}

def made? (c : Collection) (spot : Spot) (v : Verb) : Option Registration :=
  (spot.key? v).bind fun key => c.made spot (v, key)

lemma key?_eq_some {key : String} : spot.key? v = some key ↔ (v, key) ∈ spot.rows := by
  cases spot <;> cases v <;> simp [Spot.key?, Spot.rows, eq_comm]

lemma mem_all (spot : Spot) : spot ∈ Spot.all := by cases spot <;> simp [Spot.all]

lemma mem_log : g ∈ c.log ↔ ∃ spot v, c.made? spot v = some g := by
  simp only [log, List.mem_flatMap, List.mem_filterMap, made?, Option.bind_eq_some_iff,
    key?_eq_some, mem_all, true_and, Prod.exists]

lemma made?_eq_some (h : c.made? spot v = some g) :
    g.verb = v ∧ g.pattern = c.pattern spot ∧ g.target = c.target ∧
      ∃ key, spot.key? v = some key ∧ g.action = c.name key ∧
        c.target.handler? (c.name key) = some g.handler := by
  obtain ⟨key, hkey, hmade⟩ := Option.bind_eq_some_iff.mp h
  obtain ⟨handler, hhandler, rfl⟩ := Option.map_eq_some_iff.mp hmade
  exact ⟨rfl, rfl, rfl, key, hkey, rfl, hhandler⟩

lemma isSome_made? : (c.made? spot v).isSome = c.serves spot v := by
  rw [made?, serves]
  cases spot.key? v with
  | none => rfl
  | some key => simp [made, exposes]

def source (c : Collection) (spot : Spot) : String := (c.pattern spot).source

lemma isFor_iff (h : c.made? spot' u = some g) :
    g.isFor v (c.source spot) ↔ u = v ∧ spot' = spot := by
  obtain ⟨rfl, hpattern, -⟩ := made?_eq_some h
  simp only [Registration.isFor, Registration.source, hpattern, Bool.and_eq_true,
    decide_eq_true_eq]
  refine and_congr_right fun _ => ⟨source_injective, ?_⟩
  rintro rfl
  rfl

/-- A registration is found by its verb and its place. -/
lemma find?_isFor {l : List Registration} (hl : ∀ g, g ∈ l ↔ g ∈ c.log) :
    l.find? (Registration.isFor v (c.source spot)) = c.made? spot v := by
  cases hm : c.made? spot v with
  | none =>
    refine List.find?_eq_none.mpr fun g hg hfor => ?_
    obtain ⟨spot', u, hg⟩ := mem_log.mp ((hl g).mp hg)
    obtain ⟨rfl, rfl⟩ := (isFor_iff hg).mp hfor
    cases hm.symm.trans hg
  | some g =>
    have hfor := (isFor_iff hm).mpr ⟨rfl, rfl⟩
    have hg := (hl g).mpr (mem_log.mpr ⟨_, _, hm⟩)
    obtain ⟨g', hg'⟩ := Option.isSome_iff_exists.mp (List.find?_isSome.mpr ⟨g, hg, hfor⟩)
    obtain ⟨spot', u, hmade⟩ := mem_log.mp ((hl g').mp (List.mem_of_find?_eq_some hg'))
    obtain ⟨rfl, rfl⟩ := (isFor_iff hmade).mp (List.find?_some hg')
    rw [hg', ← hmade, hm]

lemma latest?_log : Log.latest? c.log v (c.source spot) = c.made? spot v :=
  find?_isFor fun _ => List.mem_reverse

lemma derivation?_log : Log.derivation? c.log v (c.source spot) =
    if v = .head then c.made? spot .get else none := by
  rw [Log.derivation?, find?_isFor fun _ => Iff.rfl]

/-- Of a list in parts, each of which repeats one thing of its own, one thing is left of each part
that is not empty. -/
lemma eraseDups_flatMap {α β : Type} [BEq β] [LawfulBEq β] {f : α → β} (hf : Function.Injective f)
    {parts : α → List β} (h : ∀ a, ∀ b ∈ parts a, b = f a) {l : List α} (hn : l.Nodup) :
    (l.flatMap parts).eraseDups = (l.filter fun a => !(parts a).isEmpty).map f := by
  induction l with
  | nil => rfl
  | cons a l ih =>
    obtain ⟨ha, hn⟩ := List.nodup_cons.mp hn
    have hkept : (l.flatMap parts).removeAll (parts a) = l.flatMap parts := by
      refine List.filter_eq_self.mpr fun b hb => ?_
      obtain ⟨a', ha', hb'⟩ := List.mem_flatMap.mp hb
      have hne : b ∉ parts a := fun hm => ha (hf ((h a b hm).symm.trans (h a' b hb')) ▸ ha')
      simpa using hne
    rw [List.flatMap_cons, List.eraseDups_append, hkept, ih hn, List.filter_cons]
    cases hp : parts a with
    | nil => rfl
    | cons b bs =>
      rw [← hp, eraseDups_of_forall_eq (by simp [hp]) (h a)]
      simp [hp]

lemma made_eq_none {p : Verb × String} : c.made spot p = none ↔ c.exposes p.2 = false := by
  rw [made, Option.map_eq_none_iff, exposes, Option.isSome_eq_false_iff, Option.isNone_iff_eq_none]

/-- The sources of the collection are those of the places that are served, in their order. -/
lemma sources_log : Log.sources c.log = (Spot.all.filter c.isServed).map c.source := by
  have hserved (spot : Spot) : c.isServed spot =
      !((spot.rows.filterMap (c.made spot)).map Registration.source).isEmpty := by
    rw [List.isEmpty_map, isServed, Bool.eq_iff_iff, List.any_eq_true, Bool.not_eq_true',
      List.isEmpty_eq_false_iff, ne_eq, List.filterMap_eq_nil_iff]
    simp only [made_eq_none, not_forall, Bool.not_eq_false, exists_prop]
  rw [Log.sources, log, List.map_flatMap, eraseDups_flatMap (f := c.source)
    (fun _ _ => source_injective) (fun spot s hs => ?_) (by decide)]
  · simp only [← hserved]
  · obtain ⟨g, hg, rfl⟩ := List.mem_map.mp hs
    obtain ⟨p, -, hmade⟩ := List.mem_filterMap.mp hg
    obtain ⟨handler, -, rfl⟩ := Option.map_eq_some_iff.mp hmade
    rfl

lemma isServed_iff : c.isServed spot ↔ ∃ v, c.serves spot v := by
  simp only [isServed, List.any_eq_true, Prod.exists, serves, Option.any_eq_true, key?_eq_some]

variable (c)

def history : History := ⟨c.router, c.log⟩

lemma config_router : c.router.config = c.config := by
  rw [router_eq, Router.config_replay]

lemma faithful : c.history.Faithful := by
  rw [History.Faithful, history, config_router]
  exact c.router_eq

lemma entry?_router (v : Verb) (s : String) :
    c.router.entry? v s = Log.entryOf c.config c.log v s := by
  rw [router_eq, Router.entry?_replay]

variable {c}

/-- A served place is in the log. -/
lemma find?_source (hs : c.isServed spot) :
    ∃ g, c.log.find? (·.source = c.source spot) = some g ∧ g.pattern = c.pattern spot := by
  obtain ⟨v, hv⟩ := isServed_iff.mp hs
  obtain ⟨g, hg⟩ := Option.isSome_iff_exists.mp (isSome_made?.trans hv)
  have hsource : g.source = c.source spot := by
    rw [Registration.source, (made?_eq_some hg).2.1]
    rfl
  have hfound : (c.log.find? (·.source = c.source spot)).isSome :=
    List.find?_isSome.mpr ⟨g, mem_log.mpr ⟨spot, v, hg⟩, by simpa using hsource⟩
  obtain ⟨g', hg'⟩ := Option.isSome_iff_exists.mp hfound
  obtain ⟨spot', u, hmade⟩ := mem_log.mp (List.mem_of_find?_eq_some hg')
  have hpattern := (made?_eq_some hmade).2.1
  have hsame : g'.source = c.source spot := by simpa using List.find?_some hg'
  rw [Registration.source, hpattern] at hsame
  obtain rfl : spot' = spot := source_injective hsame
  exact ⟨g', hg', hpattern⟩

lemma key?_head (spot : Spot) : spot.key? .head = none := by cases spot <;> rfl

/-- An entry of a place for a verb: it has the action of the row that answers the verb, if the
controller has that action, and is a fallback otherwise. -/
structure IsEntry (spot : Spot) (v : Verb) (e : RouteEntry) : Prop where
  served : ∀ key, spot.answer? v = some key → c.exposes key → e.kind ≠ .fallback ∧
    e.target = c.target ∧ e.action = c.name key ∧ e.handler = c.target.handler? (c.name key)
  refused : (∀ key, spot.answer? v = some key → c.exposes key = false) → e.kind = .fallback

/-- A registration for the row that answers a verb gives the entry for that verb. -/
lemma isEntry_of_made {u v : Verb} {kind : EntryKind} {g : Registration}
    (hu : spot.answer? v = spot.key? u) (hkind : kind ≠ .fallback)
    (hg : c.made? spot u = some g) : c.IsEntry spot v (g.entry v kind) := by
  obtain ⟨-, -, htarget, key, hkey, haction, hhandler⟩ := made?_eq_some hg
  constructor
  · intro key' hkey' _
    obtain rfl : key' = key := Option.some.inj ((hkey'.symm.trans hu).trans hkey)
    exact ⟨hkind, htarget, haction, hhandler.symm⟩
  · intro hnone
    have hexposed := hnone key (hu.trans hkey)
    rw [exposes, hhandler] at hexposed
    cases hexposed

/-- A row that was not registered is left to a fallback. -/
lemma isEntry_fallback {e : RouteEntry} (he : e.kind = .fallback)
    (hnone : c.made? spot (if v = .head then .get else v) = none) : c.IsEntry spot v e := by
  refine ⟨fun key hkey hexposed => ?_, fun _ => he⟩
  have hmade := congrArg Option.isSome hnone
  rw [isSome_made?, serves, show spot.key? _ = some key from hkey, Option.any_some, hexposed]
    at hmade
  cases hmade

/-- The entry of a place for a verb. -/
lemma entry?_spot (hs : c.isServed spot) (v : Verb) :
    ∃ e, c.router.entry? v (c.source spot) = some e ∧ e.pattern = c.pattern spot ∧
      c.IsEntry spot v e := by
  rw [entry?_router, Log.entryOf, latest?_log, derivation?_log]
  cases hm : c.made? spot v with
  | some g =>
    have hne : v ≠ .head := by
      rintro rfl
      rw [made?, key?_head] at hm
      cases hm
    have hrow : spot.answer? v = spot.key? v := by rw [Spot.answer?, if_neg hne]
    exact ⟨_, rfl, (made?_eq_some hm).2.1, isEntry_of_made hrow (by simp) hm⟩
  | none =>
    by_cases hv : v = .head
    · subst hv
      rw [if_pos rfl]
      cases hd : c.made? spot .get with
      | some g => exact ⟨_, rfl, (made?_eq_some hd).2.1, isEntry_of_made rfl (by simp) hd⟩
      | none =>
        obtain ⟨g, hfind, hpattern⟩ := find?_source hs
        exact ⟨_, by rw [hfind]; rfl, hpattern, isEntry_fallback rfl hd⟩
    · rw [if_neg hv]
      obtain ⟨g, hfind, hpattern⟩ := find?_source hs
      exact ⟨_, by rw [hfind]; rfl, hpattern, isEntry_fallback rfl (by rwa [if_neg hv])⟩

/-- The verbs that a place allows. -/
lemma allowedFor_spot : c.router.allowedFor (c.source spot) = Verb.all.filter (c.serves spot) := by
  refine List.filter_congr fun v _ => ?_
  rw [entry?_router, Log.entryOf, latest?_log, derivation?_log, ← isSome_made?]
  cases c.made? spot v with
  | some g => simp [Registration.entry]
  | none =>
    split
    · next h => cases h
    · simp [Registration.entry]
    · cases c.log.find? (·.source = c.source spot) <;> simp [RouteEntry.fallback]

/-- What the entries of a place find in a path. -/
lemma matchOf_spot (hs : c.isServed spot) (v : Verb) {path : String}
    (hstrip : stripQuery path.toList = path.toList) :
    c.router.matchOf path v (c.source spot) = (c.pattern spot).matcher.search path.toList := by
  obtain ⟨e, he, hpattern, -⟩ := entry?_spot hs v
  rw [Router.matchOf, he, Option.bind_some, hpattern, hstrip]

section Path

variable {path : List Char} {xs : List (List Char)} {m : Regex.Match}

/-- The path without the slash that does not matter. -/
def trim (c : Collection) (path : List Char) : List Char :=
  trimmed c.config.strictSlashes.truthy path

lemma casing_eq (c : Collection) :
    casingOf (!c.config.caseSensitive.truthy) = Regex.Casing.exact := by
  rw [c.caseSensitive]
  rfl

/-- What the pattern of a place finds is there, with the text of its item. -/
lemma isAt_of_search (hl : '\n' ∉ path) (h : (c.pattern spot).matcher.search path = some m) :
    ∃ xs, IsAt c.base spot xs (c.trim path) ∧ m.isCrossed = false ∧ m.texts path = xs.map some := by
  obtain ⟨xs, hfinds, hcross, htexts⟩ := finds_of_search h
  rw [casing_eq] at hfinds
  exact ⟨xs, (finds_spot c.isBase_base hl).mp hfinds, hcross, htexts⟩

/-- The pattern of a place finds what is there. -/
lemma search_of_isAt (hl : '\n' ∉ path) (h : IsAt c.base spot xs (c.trim path)) :
    ∃ m, (c.pattern spot).matcher.search path = some m ∧ m.isCrossed = false ∧
      m.texts path = xs.map some := by
  have hfinds := (finds_spot c.isBase_base hl).mpr h
  rw [← casing_eq c] at hfinds
  obtain ⟨m, hm⟩ := Option.isSome_iff_exists.mp (search_isSome_of_finds hfinds)
  obtain ⟨ys, hfinds', hcross, htexts⟩ := finds_of_search hm
  have hsegmented := (Bool.and_eq_true_iff.mp (isAtomic_spot c.isBase_base spot)).2
  obtain rfl := hfinds.unique hsegmented hl hfinds'
  exact ⟨m, hm, hcross, htexts⟩

end Path

lemma isServed_fresh : c.isServed .fresh = c.exposes "new" := by simp [isServed, Spot.rows]

/-- Where a path leads to a place, no place before that one has a match. -/
lemma search_eq_none {path : List Char} {xs : List (List Char)} (hl : '\n' ∉ path)
    (h : c.Leads spot xs (c.trim path)) (hm : spot' ∈ Spot.all.takeWhile (· ≠ spot))
    (hs : c.isServed spot') : (c.pattern spot').matcher.search path = none := by
  cases hsearch : (c.pattern spot').matcher.search path with
  | none => rfl
  | some m =>
    exfalso
    obtain ⟨ys, hat, -⟩ := isAt_of_search hl hsearch
    have hne : spot' ≠ spot := by simpa using List.mem_takeWhile_imp hm
    rcases h.isAt.spot_eq hat hne with ⟨rfl, rfl⟩ | ⟨rfl, rfl, rfl⟩
    · exact absurd hm (by decide)
    · rw [isServed_fresh, h.not_fresh rfl rfl] at hs
      cases hs

/-- A path leads to a place: every verb is led to its entry, with the text of the item. -/
lemma found_of_leads {path : String} {xs : List (List Char)} (hl : '\n' ∉ path.toList)
    (hstrip : stripQuery path.toList = path.toList) (h : c.Leads spot xs (c.trim path.toList))
    {v : Verb} {e : RouteEntry} (he : c.router.entry? v (c.source spot) = some e) :
    ∃ m, c.router.found v path = some (e, m) ∧ m.isCrossed = false ∧
      m.texts path.toList = xs.map some := by
  obtain ⟨m, hm, hcross, htexts⟩ := search_of_isAt hl h.isAt
  have hsplit : Spot.all = Spot.all.takeWhile (· ≠ spot) ++
      spot :: (Spot.all.dropWhile (· ≠ spot)).tail := by
    cases spot <;> rfl
  have hkeys (v : Verb) : OrderedMap.keys (c.router.table v) = Log.sources c.log :=
    c.faithful.keys_table v
  have hsources : c.router.sources =
      ((Spot.all.takeWhile (· ≠ spot)).filter c.isServed).map c.source ++ c.source spot ::
        ((Spot.all.dropWhile (· ≠ spot)).tail.filter c.isServed).map c.source := by
    rw [Router.sources, hkeys, sources_log, ← List.map_cons, ← List.map_append,
      ← List.filter_cons_of_pos h.served, ← List.filter_append, ← hsplit]
  refine ⟨m, Router.found_of_first ((hkeys v).trans (hkeys .get).symm)
    (c.faithful.nodup_keys .get) hsources (fun s hs => ?_) he ?_, hcross, htexts⟩
  · obtain ⟨spot', hspot, rfl⟩ := List.mem_map.mp hs
    obtain ⟨hbefore, hserved⟩ := List.mem_filter.mp hspot
    rw [matchOf_spot hserved v hstrip]
    exact search_eq_none hl h hbefore hserved
  · rw [matchOf_spot h.served v hstrip, hm]

/-- A path that leads nowhere is found by no verb. -/
lemma found_eq_none {path : String} (hl : '\n' ∉ path.toList)
    (hstrip : stripQuery path.toList = path.toList)
    (h : ∀ spot xs, ¬ c.Leads spot xs (c.trim path.toList)) (v : Verb) :
    c.router.found v path = none := by
  have hn : (OrderedMap.keys (c.router.table v)).Nodup := c.faithful.nodup_keys v
  rw [Router.found_eq_findSome? _ _ hn, List.findSome?_eq_none_iff]
  intro s hs
  rw [show OrderedMap.keys (c.router.table v) = Log.sources c.log from c.faithful.keys_table v,
    sources_log] at hs
  obtain ⟨spot, hspot, rfl⟩ := List.mem_map.mp hs
  have hserved := (List.mem_filter.mp hspot).2
  rw [matchOf_spot hserved v hstrip]
  cases hm : (c.pattern spot).matcher.search path.toList with
  | none => simp
  | some m =>
    exfalso
    obtain ⟨xs, hat, -⟩ := isAt_of_search hl hm
    refine h spot xs ⟨hat, hserved, ?_⟩
    rintro rfl rfl
    by_contra hexposed
    have hfresh : c.isServed .fresh := isServed_fresh.trans (by simpa using hexposed)
    exact h .fresh [] ⟨hat.fresh_of_item, hfresh, by simp⟩

/-- What a place finds gives the text of its item as the parameter. -/
lemma paramsOf_spot {path : List Char} {xs : List (List Char)} {m : Regex.Match}
    (hat : IsAt c.base spot xs (c.trim path)) (htexts : m.texts path = xs.map some) :
    paramsOf (c.pattern spot).slots (decodeGroups m path) = xs.map fun x => ("id", decoded x) := by
  have hset : ∀ u, Atom.set u ∉ spot.atoms c.base := by
    intro u
    cases spot <;> simp [Spot.atoms, Spot.ending, literally]
  have hnames : holeNames (spot.atoms c.base) = holeNames spot.ending := by
    simp [holeNames, Spot.atoms, literally, Atom.name?, List.filterMap_append]
  have hslots : (c.pattern spot).slots = namedSlots (spot.atoms c.base) := atomSlots_eq hset
  rw [hslots, decodeGroups_eq htexts, namedSlots, paramsOf_named, hnames]
  obtain ⟨t, -, ht⟩ := hat
  cases ht <;> rfl

/-- The rows of a collection are registered without a fault, and the router then serves its places
and nothing else. A path, but for a slash at its end where slashes are not strict, leads to one of
the places that are served or to none. A place answers each verb that an action is exposed for with
that action and the decoded text of its item, and `HEAD` as it does `GET`; to any other verb it
allows exactly the verbs that were registered for it. Any other path is unknown to every verb. -/
theorem dispatch_collection (c : Collection) :
    c.bound.fault = none ∧
    ∀ verb path : String, '\n' ∉ path.toList → '?' ∉ path.toList → '#' ∉ path.toList →
      (∀ spot xs v, c.Leads spot xs (c.trim path.toList) →
        Verb.ofName? (Text.upper verb) = some v →
        (∀ key, spot.answer? v = some key → c.exposes key → ∃ m,
          c.router.dispatch (.text verb) (.text path) = .ok (.matched m) ∧
          m.entry.target = c.target ∧ m.entry.action = c.name key ∧
          m.entry.handler = c.target.handler? (c.name key) ∧
          m.params = xs.map fun x => ("id", decoded x)) ∧
        ((∀ key, spot.answer? v = some key → c.exposes key = false) →
          c.router.dispatch (.text verb) (.text path) =
            .ok (.notAllowed (Verb.all.filter (c.serves spot))))) ∧
      ((∀ spot xs, ¬ c.Leads spot xs (c.trim path.toList)) →
        c.router.dispatch (.text verb) (.text path) = .ok .unmatched) := by
  refine ⟨c.fault_bound, fun verb path hl hq hh => ⟨fun spot xs v hleads hv => ?_, fun hnone => ?_⟩⟩
  · have hstrip := stripQuery_of_not_mem hq hh
    obtain ⟨e, he, hpattern, hentry⟩ := entry?_spot hleads.served v
    obtain ⟨m, hfound, hcross, htexts⟩ := found_of_leads hl hstrip hleads he
    have hdispatch := Router.dispatch_of_found hv hfound hcross
    refine ⟨fun key hkey hexposed => ?_, fun hrefused => ?_⟩
    · obtain ⟨hkind, htarget, haction, hhandler⟩ := hentry.served key hkey hexposed
      rw [if_neg hkind, hstrip, hpattern] at hdispatch
      exact ⟨_, hdispatch, htarget, haction, hhandler, paramsOf_spot hleads.isAt htexts⟩
    · rw [if_pos (hentry.refused hrefused), hpattern] at hdispatch
      exact hdispatch.trans (congrArg _ (congrArg _ allowedFor_spot))
  · cases hv : Verb.ofName? (Text.upper verb) with
    | none => exact Router.dispatch_of_ofName?_none hv
    | some v =>
      rw [Router.dispatch_eq_unmatched_iff hv]
      exact found_eq_none hl (stripQuery_of_not_mem hq hh) hnone v

/-- The action of a row is the one that the action map names for it. -/
lemma resourceAction_of_names {config : RouterConfig} {name : String → String}
    (h : config.resourceActions = .mapping (resourceKeys.map fun key => (key, .text (name key)))) :
    ∀ key ∈ resourceKeys, config.resourceAction key = .ok (.text (name key)) := by
  intro key hkey
  rw [RouterConfig.resourceAction, h]
  simp only [resourceKeys, List.mem_cons, List.not_mem_nil, or_false] at hkey
  rcases hkey with rfl | rfl | rfl | rfl | rfl | rfl | rfl <;> rfl

def pages : Collection where
  config := { caseSensitive := .bool true }
  base := "/pages".toList
  target := History.pages
  name := id
  caseSensitive := rfl
  isBase_base := by decide
  resourceAction_eq := resourceAction_of_names rfl
  name_ne := by
    have hne : ∀ key ∈ resourceKeys, key ≠ "" := by decide
    exact fun key hkey _ => hne key hkey

/-- Without an action for new items their word is an item. A list allows no `POST`, and nothing is
edited. -/
theorem dispatch_collection_pages :
    pages.bound = ({ config := { caseSensitive := .bool true } } : Router).resources
      (.text "/pages") History.pages (.text ":id") ∧ pages.bound.fault = none ∧
    (∃ m, pages.router.dispatch (.text "head") (.text "/pages/new/") = .ok (.matched m) ∧
      m.entry.action = "show" ∧ m.params = [("id", "new")]) ∧
    pages.router.dispatch (.text "POST") (.text "/pages") = .ok (.notAllowed [.get]) ∧
    pages.router.dispatch (.text "GET") (.text "/pages/7/edit") = .ok .unmatched := by
  obtain ⟨hfault, hanswers⟩ := dispatch_collection pages
  obtain ⟨hnew, -⟩ := hanswers "head" "/pages/new/" (by decide) (by decide) (by decide)
  obtain ⟨hlist, -⟩ := hanswers "POST" "/pages" (by decide) (by decide) (by decide)
  obtain ⟨-, hnowhere⟩ := hanswers "GET" "/pages/7/edit" (by decide) (by decide) (by decide)
  have hitem : pages.Leads .item [newWord] (pages.trim "/pages/new/".toList) :=
    ⟨⟨'/' :: newWord, by decide, .item (by decide) (by decide)⟩, by decide, fun _ _ => by decide⟩
  have hitself : pages.Leads .itself [] (pages.trim "/pages".toList) :=
    ⟨⟨[], by decide, .itself⟩, by decide, by simp⟩
  have hediting : IsAt pages.base .editing [['7']] (pages.trim "/pages/7/edit".toList) :=
    ⟨['/', '7'] ++ '/' :: editWord, by decide, .editing (by decide) (by decide)⟩
  obtain ⟨m, hm, -, haction, -, hparams⟩ :=
    (hnew _ _ .head hitem (by decide)).1 "show" rfl (by decide)
  have hrefused := (hlist _ _ .post hitself (by decide)).2 fun key hkey => by
    cases hkey
    decide
  refine ⟨rfl, hfault, ⟨m, hm, haction, hparams.trans (by decide)⟩, hrefused, ?_⟩
  refine hnowhere fun spot xs hleads => ?_
  by_cases hspot : spot = .editing
  · subst hspot
    exact absurd hleads.served (by decide)
  · simpa using hediting.spot_eq hleads.isAt hspot

/-- The rows of a collection under their own names, but for the list, which has none. -/
def unnamedList (key : String) : String := if key = "list" then "" else key

def unnamed : RouterConfig where
  caseSensitive := .bool true
  resourceActions := .mapping (resourceKeys.map fun key => (key, .text (unnamedList key)))

def nameless : Target := .controller { key := "pages", actions := ["", "show"] }

/-- An action without a name is registered as the one that shows. -/
theorem not_dispatch_collection : ¬ ∀ (config : RouterConfig) (base : List Char) (target : Target)
    (name : String → String), config.caseSensitive.truthy → isBase base →
      (∀ key ∈ resourceKeys, config.resourceAction key = .ok (.text (name key))) →
      (target.handler? (name "list")).isSome →
      ∃ m, (({ config } : Router).resources (.text (String.ofList base)) target
          (.text ":id")).router.dispatch (.text "GET") (.text (String.ofList base)) =
          .ok (.matched m) ∧ m.entry.action = name "list" := by
  intro hall
  obtain ⟨m, hm, haction⟩ := hall unnamed "/x".toList nameless unnamedList rfl (by decide)
    (resourceAction_of_names rfl) (by decide)
  have hanswers : (({ config := unnamed } : Router).resources (.text "/x") nameless
      (.text ":id")).router.answers "/x" fun m => m.entry.action == "show" := by
    decide +kernel
  obtain ⟨m', hm', hshows⟩ := Router.exists_of_answers hanswers
  cases hm.symm.trans hm'
  rw [haction] at hshows
  cases hshows

end Collection

end ActionRouting
