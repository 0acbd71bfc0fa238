import ActionRouting.Proofs.Regex.Regained
import ActionRouting.Proofs.Router.SoleRoute

/-! A regular expression alone in its router that is given the texts back that its capture groups
took. The URL takes the first of them for its groups, which are those of the groups only as long as
no group before holds a capture group. -/
namespace ActionRouting.Router

open Regex (Item Ending)

variable {path : List Char}

/-- What a capture group took is a part of the path. -/
lemma mem_of_texts {found : Regex.Match} {x : List Char} {c : Char}
    (h : some x ∈ found.texts path) (hc : c ∈ x) : c ∈ path := by
  obtain ⟨span?, -, hspan⟩ := List.mem_map.mp h
  obtain ⟨span, -, rfl⟩ := Option.map_eq_some_iff.mp hspan
  exact List.mem_of_mem_drop (List.mem_of_mem_take hc)

/-- What capture groups took of a path of slashes and characters that stand for themselves is
decoded as it is. -/
lemma texts_of_decodeGroups {found : Regex.Match} {args : List String}
    (hpath : ∀ c ∈ path, Text.Percent.isUnreserved c ∨ c = '/')
    (h : decodeGroups found path = args.map some) :
    found.texts path = (args.map String.toList).map some := by
  have hplain : decodeGroups found path = (found.texts path).map (·.map String.ofList) := by
    refine List.map_congr_left fun text htext => ?_
    cases text with
    | none => rfl
    | some x =>
      exact congrArg (some ∘ String.ofList)
        (Text.Percent.decode_eq_self fun c hc => hpath c (mem_of_texts htext hc))
  have hback := congrArg (List.map (Option.map String.toList)) (hplain.symm.trans h)
  simpa [Function.comp_def] using hback

/-- A regular expression alone in its router has literal characters and capture groups that hold at
most one level of further groups. A path of slashes and characters that stand for themselves is
matched, and all capture groups took part. Given what they took, the URL of the route has the first
of these texts in its groups, and the path has those of its groups. So the path is built again where
no group but the last holds capture groups, and else only where the texts spell the same. -/
theorem urlFor_args (config : RouterConfig) {items : List Item} {source : Regex} {r : Router}
    {target query : Target} {action verb requested : Value} {m : Matched} {args : List String}
    (hi : ∀ i ∈ items, i.isNested) (hp : Regex.readsParens (Regex.sourceOf items .bare))
    (hc : Regex.compile {} (String.ofList (Regex.sourceOf items .bare)) = .ok source)
    (hr : Router.route { config } (.regex source) target action verb = .ok r)
    (hq : target.meantBy query)
    (hpath : ∀ c ∈ path, Text.Percent.isUnreserved c ∨ c = '/')
    (hm : r.dispatch requested (.text (String.ofList path)) = .ok (.matched m))
    (hargs : m.args = args.map some) :
    m.entry.target = target ∧ action.orElse (.text "show") = .text m.entry.action ∧
      r.urlFor query (.text m.entry.action) (.positional (.tuple (args.map .text))) =
        (if isMissing query (.text m.entry.action) then .error .missingArguments
          else .ok (String.ofList (Regex.spelled items (args.map String.toList)))) ∧
      path = Regex.spelled items (Regex.ownOf items (args.map String.toList)) ∧
      (Regex.keepsCount items → Regex.spelled items (args.map String.toList) = path) := by
  obtain ⟨g, hprepared, rfl⟩ := route_eq_ok hr
  obtain ⟨-, htarget, haction, -, hcompiled⟩ := prepare_eq_ok hprepared
  have hpattern := (Except.ok.inj hcompiled).symm
  obtain ⟨-, -, hsource, -⟩ := Regex.compile_root hc
  have habsent (c : Char) (hc : Text.Percent.isUnreserved c = false) (hs : c ≠ '/') : c ∉ path := by
    intro hmem
    rcases hpath c hmem with hu | he
    · rw [hc] at hu
      cases hu
    · exact hs he
  have hstrip : stripQuery path = path :=
    Path.stripQuery_of_not_mem (habsent '?' (by decide) (by decide))
      (habsent '#' (by decide) (by decide))
  obtain ⟨found, hfound, hcross, hserved, hbound, hdecoded⟩ := matched_sole hm
  rw [String.toList_ofList, hstrip] at hfound hdecoded
  have hsearch : source.search path = some found := by
    rw [hpattern] at hfound
    exact hfound
  have htexts := texts_of_decodeGroups hpath (hdecoded.symm.trans hargs)
  obtain ⟨hlen, hspelled⟩ := Regex.search_regained hi hp hc
    (habsent '\n' (by decide) (by decide)) hsearch hcross htexts
  have hsame : args.map (fun a => Text.Percent.encodePath a.toList) = args.map String.toList := by
    refine List.map_congr_left fun a ha => Text.Percent.encodePath_eq_self fun c hc => ?_
    have hmem : some a.toList ∈ found.texts path := by
      rw [htexts]
      exact List.mem_map_of_mem (List.mem_map_of_mem ha)
    exact hpath c (mem_of_texts hmem hc)
  have hurl : urlOf (g.entry g.verb .explicit) [] (args.map .text) =
      .ok (String.ofList (Regex.spelled items (args.map String.toList))) := by
    have hseen : ∀ i ∈ items, i.isSeen := fun i hi' => Regex.isSeen_of_isNested (hi i hi')
    have hcount : Regex.groupsOf items ≤ args.length := by
      rw [List.length_map] at hlen
      exact hlen ▸ Regex.groupsOf_le_capturesOf items
    rw [urlOf, Registration.entry, hpattern]
    simp only [hsource, String.toList_ofList]
    rw [Regex.Template.fill_sourceOf hseen, Regex.Template.spelled_fillings hcount, hsame]
  refine ⟨hbound.trans htarget, hserved ▸ haction, ?_, hspelled, fun hkeeps => ?_⟩
  · rw [hserved, urlFor_alone (htarget ▸ hq) rfl, hurl]
  · exact (Regex.spelled_ownOf hkeeps _).symm.trans hspelled.symm

/-- A regular expression alone in its router matches a path. Given what its capture groups took, its
URL is `url`. -/
def Rebuilds (text path : String) (args : List String) (url : String) : Prop :=
  ∃ source r m, Regex.compile {} text = .ok source ∧
    Router.route { config := {} } (.regex source) History.shower .null .null = .ok r ∧
    r.dispatch (.text "GET") (.text path) = .ok (.matched m) ∧ m.args = args.map some ∧
    r.urlFor History.shower (.text "show") (.positional (.tuple (args.map .text))) = .ok url

/-- A capture group in the first group moves the texts of those behind it; one in the last group and
a plain group do not. -/
theorem urlFor_args_nested :
    Rebuilds "^/((a)b)/(c)$" "/ab/c" ["ab", "a", "c"] "/ab/a" ∧
    Rebuilds "^/(a(?:b)?)/(c(d))$" "/ab/cd" ["ab", "cd", "d"] "/ab/cd" := by
  have hcase (items : List Item) (path : List Char) {text url : String} {args : List String}
      (htext : text = String.ofList (Regex.sourceOf items .bare)) (hi : ∀ i ∈ items, i.isNested)
      (hp : Regex.readsParens (Regex.sourceOf items .bare))
      (hplain : path.all fun c => Text.Percent.isUnreserved c || c == '/')
      (hurl : String.ofList (Regex.spelled items (args.map String.toList)) = url)
      (h : (Regex.compile {} text).toOption.any fun source =>
        (Router.route { config := {} } (.regex source) History.shower .null .null).toOption.any
          fun r => r.answers (String.ofList path) fun m => decide (m.args = args.map some)) :
      Rebuilds text (String.ofList path) args url := by
    have hpath : ∀ c ∈ path, Text.Percent.isUnreserved c ∨ c = '/' := by
      simpa [List.all_eq_true] using hplain
    obtain ⟨source, hc, h⟩ := exists_of_any h
    obtain ⟨r, hr, h⟩ := exists_of_any h
    obtain ⟨m, hm, hargs⟩ := exists_of_answers h
    have hargs := of_decide_eq_true hargs
    obtain ⟨-, haction, hbuilt, -⟩ := urlFor_args {} hi hp (htext ▸ hc) hr
      (by decide : History.shower.meantBy History.shower) hpath hm hargs
    rw [← Value.text.inj haction, hurl] at hbuilt
    exact ⟨source, r, m, hc, hr, hm, hargs, hbuilt⟩
  exact ⟨hcase [.char '/', .group none "(a)b".toList, .char '/', .group none "c".toList]
      "/ab/c".toList (by decide) (by decide) (by decide) (by decide) (by decide)
      (by decide),
    hcase [.char '/', .group none "a(?:b)?".toList, .char '/', .group none "c(d)".toList]
      "/ab/cd".toList (by decide) (by decide) (by decide) (by decide) (by decide)
      (by decide)⟩

end ActionRouting.Router
