import ActionRouting.Proofs.Router.SoleRoute

/-! What named values cannot change in the URL of a route. Every value is encoded, so what is no
character of an encoded value comes from the route. -/
namespace ActionRouting

open Text Text.Percent

/-- The characters of a text that no encoded value has, in their order. -/
def frame (url : String) : List Char := url.toList.filter fun c => !isSegmentChar c

/-- A character that has a meaning in URLs or in paths. -/
def isMark (c : Char) : Bool := ['/', '?', '#', ':', '*'].contains c

def marks (url : String) : List Char := url.toList.filter isMark

def SameNames (named₁ named₂ : OrderedMap Value) : Prop :=
  ∀ name, (Path.given? named₁ name).isSome = (Path.given? named₂ name).isSome

/-- The marks are in the frame. -/
lemma marks_eq (url : String) :
    marks url = (frame url).filter isMark := by
  rw [frame, List.filter_filter, marks]
  refine List.filter_congr fun c _ => ?_
  have hmark : ['/', '?', '#', ':', '*'].all fun d => !isSegmentChar d := by decide
  cases hc : isMark c with
  | false => rfl
  | true =>
    rw [List.all_eq_true.mp hmark c (List.contains_iff_mem.mp hc)]
    rfl

section Runs

variable {named₁ named₂ : OrderedMap Value}

lemma SameNames.eq_none (h : SameNames named₁ named₂) {name : String}
    (hn : Path.given? named₁ name = none) : Path.given? named₂ name = none := by
  have hsome := h name
  rw [hn] at hsome
  exact Option.isNone_iff_eq_none.mp (Option.isSome_eq_false_iff.mp hsome.symm)

lemma SameNames.exists_some (h : SameNames named₁ named₂) {name : String} {v : Value}
    (hv : Path.given? named₁ name = some v) : ∃ w, Path.given? named₂ name = some w := by
  have hsome := h name
  rw [hv] at hsome
  exact Option.isSome_iff_exists.mp hsome.symm

/-- No character of an encoded segment is in a frame. -/
lemma filter_segment (v : Value) :
    (Path.segment v).filter (fun c => !isSegmentChar c) = [] := by
  rw [List.filter_eq_nil_iff]
  intro c hc
  simp [(mem_encodeSegment hc).1]

/-- What a parameter becomes has one frame for all values. -/
lemma filter_fillParam (h : SameNames named₁ named₂) (p : Path.Param) :
    (Path.fillParam named₁ p).filter (fun c => !isSegmentChar c) =
      (Path.fillParam named₂ p).filter (fun c => !isSegmentChar c) := by
  rw [Path.fillParam, Path.fillParam]
  cases h₁ : Path.given? named₁ (String.ofList p.name) with
  | none => rw [h.eq_none h₁]
  | some v =>
    obtain ⟨w, h₂⟩ := h.exists_some h₁
    simp only [h₂, List.filter_append, filter_segment]

/-- Without a value for the rest of the path, its star stays. -/
lemma fill_eq_replace {named : OrderedMap Value} (hstar : Path.given? named "*" = none)
    (path : List Char) :
    Path.fill named [] path = Path.Param.scanner.replace (Path.fillParam named) path := by
  rw [Path.fill, Scanner.replaceWith_eq_render]
  refine (Path.trailingStar_isFaithful.cuts none _).render_eq (P := (· = [])) ?_ rfl
  rintro _ rfl ⟨⟩
  rw [Path.fillStar, hstar]
  exact ⟨rfl, rfl⟩

/-- A path becomes texts with one frame. -/
lemma filter_fill (h : SameNames named₁ named₂) (hstar : Path.given? named₁ "*" = none)
    (path : List Char) :
    (Path.fill named₁ [] path).filter (fun c => !isSegmentChar c) =
      (Path.fill named₂ [] path).filter (fun c => !isSegmentChar c) := by
  rw [fill_eq_replace hstar, fill_eq_replace (h.eq_none hstar), Scanner.replace, Scanner.replace,
    List.filter_flatMap, List.filter_flatMap]
  congr 1
  funext p
  cases p with
  | plain c => rfl
  | token p => exact filter_fillParam h p

/-- A group becomes texts with one frame, and leaves the same to fill. -/
lemma filter_fillPart (h : SameNames named₁ named₂) (supply : Regex.Template.Supply)
    (part : Regex.Template.Part) :
    (Regex.Template.fillPart named₁ supply part).1 =
        (Regex.Template.fillPart named₂ supply part).1 ∧
      (Regex.Template.fillPart named₁ supply part).2.filter (fun c => !isSegmentChar c) =
        (Regex.Template.fillPart named₂ supply part).2.filter (fun c => !isSegmentChar c) := by
  cases part with
  | edge text => exact ⟨rfl, rfl⟩
  | slash => exact ⟨rfl, rfl⟩
  | escaped c => exact ⟨rfl, rfl⟩
  | group name text =>
    rw [Regex.Template.fillPart, Regex.Template.fillPart]
    cases name with
    | none => exact ⟨rfl, rfl⟩
    | some name =>
      simp only [Option.bind_some]
      cases h₁ : Path.given? named₁ (String.ofList name) with
      | none =>
        rw [h.eq_none h₁]
        exact ⟨rfl, rfl⟩
      | some v =>
        obtain ⟨w, h₂⟩ := h.exists_some h₁
        rw [h₂]
        exact ⟨rfl, (filter_segment v).trans (filter_segment w).symm⟩

/-- The URLs of an entry have one frame. -/
theorem frame_urlOf (h : SameNames named₁ named₂) (hstar : Path.given? named₁ "*" = none)
    (e : RouteEntry) :
    (Router.urlOf e named₁ []).map frame = (Router.urlOf e named₂ []).map frame := by
  have hpath (path : String) : frame (String.ofList (Path.fill named₁ [] path.toList)) =
      frame (String.ofList (Path.fill named₂ [] path.toList)) := by
    simpa [frame] using filter_fill h hstar path.toList
  rw [Router.urlOf, Router.urlOf]
  cases e.pattern.spec with
  | text path => exact congrArg Except.ok (hpath path)
  | alternatives paths =>
    cases paths with
    | nil => rfl
    | cons path _ => exact congrArg Except.ok (hpath path)
  | regex source =>
    refine congrArg Except.ok ?_
    rw [frame, frame, String.toList_ofList, String.toList_ofList, Regex.Template.fill,
      Regex.Template.fill, Scanner.replaceWith_eq_render, Scanner.replaceWith_eq_render]
    exact Scanner.filter_render (filter_fillPart h) _ _
  | other v => rfl

end Runs

namespace Router

/-- Values for the same names give URLs that differ in characters of encoded values alone: what
else is in them, the marks of URLs and paths among it, is the same and in the same order. -/
theorem frame_urlFor (r : Router) (query : Target) (action : Value) {values₁ values₂ : Value}
    {named₁ named₂ : OrderedMap Value} (h₁ : values₁.toMapping = .ok named₁)
    (h₂ : values₂.toMapping = .ok named₂) (hnames : SameNames named₁ named₂)
    (hstar : Path.given? named₁ "*" = none) :
    (r.urlFor query action (.named values₁)).map frame =
        (r.urlFor query action (.named values₂)).map frame ∧
      (r.urlFor query action (.named values₁)).map marks =
        (r.urlFor query action (.named values₂)).map marks := by
  have hframe : (r.urlFor query action (.named values₁)).map frame =
      (r.urlFor query action (.named values₂)).map frame := by
    rw [urlFor, urlFor]
    split
    · rfl
    · cases r.findRoute query action with
      | none => rfl
      | some e =>
        simp only [RouteArguments.unpack, h₁, h₂]
        exact frame_urlOf hnames hstar e
  have hmarks (url : Result String) : url.map marks =
      (url.map frame).map (·.filter isMark) := by
    cases url with
    | error f => rfl
    | ok s => exact congrArg Except.ok (marks_eq s)
  refine ⟨hframe, ?_⟩
  rw [hmarks, hmarks, hframe]

/-- A value that looks like the rest of a path and a query adds no mark. -/
theorem frame_urlFor_star : ∃ r url,
    Router.route { config := {} } (.text "/x/:id/*") History.shower .null .null = .ok r ∧
    r.urlFor History.shower (.text "show") (.named (.mapping [("id", .text "/*?a#b:c")])) =
      .ok url ∧
    frame url = ['/', '/', '/', '*'] ∧ marks url = ['/', '/', '/', '*'] := by
  let hostile : OrderedMap Value := [("id", .text "/*?a#b:c")]
  let plain : OrderedMap Value := [("id", .int 1)]
  have hnames : SameNames hostile plain := by
    intro name
    by_cases h : "id" = name <;> simp [hostile, plain, Path.given?, OrderedMap.get?, h]
  obtain ⟨r, hr, hbuilt⟩ := exists_of_any
    (x := Router.route { config := {} } (.text "/x/:id/*") History.shower .null .null)
    (p := fun r => decide (r.urlFor History.shower (.text "show")
      (.named (.mapping plain)) = .ok "/x/1/*")) (by decide +kernel)
  rw [decide_eq_true_iff] at hbuilt
  obtain ⟨hframe, hmarks⟩ := frame_urlFor r History.shower (.text "show")
    (show (Value.mapping hostile).toMapping = .ok hostile from rfl)
    (show (Value.mapping plain).toMapping = .ok plain from rfl) hnames (by decide)
  rw [hbuilt] at hframe hmarks
  cases hurl : r.urlFor History.shower (.text "show") (.named (.mapping hostile)) with
  | error f =>
    rw [hurl] at hframe
    cases hframe
  | ok url =>
    rw [hurl] at hframe hmarks
    refine ⟨r, url, hr, hurl, ?_, ?_⟩
    · exact (Except.ok.inj hframe).trans (by decide)
    · exact (Except.ok.inj hmarks).trans (by decide)

end Router

end ActionRouting
