import Charting.Graphics.Scenes
import Charting.Proofs.Graphics.Reader

/-!
# Pictures are well formed

The picture of a scene is read to its end, whatever the texts in the scene are: the attributes hold
numbers, colours, paths and words of the drawing itself, and all other texts are character data.
What is read as the data of text elements are the texts that the scene shows, in the order of
drawing, and the data of title elements are the texts that are shown on hovering.
-/

namespace Charting

variable {R : Type}

/-! ## The texts of a scene -/

/-- The text that a mark shows. -/
def Mark.text? (m : Mark R) : Option String :=
  match m.figure with
  | .text _ s _ => some s
  | _ => none

/-- The text that a mark shows on hovering; a text mark has none. -/
def Mark.tip? (m : Mark R) : Option String :=
  match m.figure with
  | .text .. => none
  | _ => m.tooltip

/-- A title is shown unless it is empty. -/
def shownTitle (title : String) : List String := if title.isEmpty then [] else [title]

/-- The texts of an axis, in each of its places: the labels of the ticks and the title. -/
def Axis.texts (a : Axis R) : List String :=
  a.placements.flatMap fun _ ↦ a.ticks.map (·.label) ++ shownTitle a.title

/-- The texts of a legend: the title and the labels of the entries. -/
def Legend.texts (l : Legend R) : List String := shownTitle l.title ++ l.entries.map (·.label)

/-- The texts that a scene shows, in the order of drawing. -/
def Scene.texts (s : Scene R) : List String :=
  s.marks.filterMap Mark.text? ++ s.allAxes.flatMap Axis.texts ++
    s.allLegends.flatMap Legend.texts ++ s.headers.map (·.text)

/-- The texts that a scene shows on hovering. -/
def Scene.tips (s : Scene R) : List String := s.marks.filterMap Mark.tip?

namespace Markup

/-! ## Plain texts -/

theorem isPlain_iff {s : String} : isPlain s ↔ ∀ c ∈ s.toList, isPlainChar c := List.all_eq_true

@[simp]
theorem isPlain_append {s t : String} : isPlain (s ++ t) ↔ isPlain s ∧ isPlain t := by
  simp [isPlain_iff, or_imp, forall_and]

theorem isPlain_intercalate {separator : String} (hseparator : isPlain separator) {l : List String}
    (hl : ∀ s ∈ l, isPlain s) : isPlain (separator.intercalate l) := by
  induction l with
  | nil => simp [isPlain]
  | cons s l ih =>
      have hs := hl s (by simp)
      have hrest := ih fun t ht ↦ hl t (by simp [ht])
      cases l with
      | nil => simpa using hs
      | cons t l => simpa [hs, hseparator] using hrest

theorem isPlainChar_of_isDigit {c : Char} (h : c.isDigit) : isPlainChar c :=
  isPlainChar_iff.mpr fun hc ↦ by fin_cases hc <;> contradiction

theorem isPlainChar_digitChar (n : Nat) : isPlainChar (Nat.digitChar n) := by
  simp [isPlainChar]

theorem isPlainChar_of_mem_toDigits {n : Nat} {c : Char} (hc : c ∈ Nat.toDigits 10 n) :
    isPlainChar c :=
  isPlainChar_of_isDigit (Nat.isDigit_of_mem_toDigits (by decide) (by decide) hc)

theorem isPlainChar_of_mem_zeros {n : Nat} {c : Char} (hc : c ∈ zeros n) : isPlainChar c := by
  rw [(List.mem_replicate.mp hc).2]
  decide

theorem isPlainChar_of_mem_magnitude {digits : Nat} {exponent : Int} {c : Char}
    (hc : c ∈ Decimal.magnitude digits exponent) : isPlainChar c := by
  have hpoint : isPlainChar '.' := by decide
  have hzero : isPlainChar '0' := by decide
  unfold Decimal.magnitude at hc
  dsimp only at hc
  split_ifs at hc
  · exact isPlainChar_of_mem_toDigits hc
  · rcases List.mem_append.mp hc with hc | hc
    · exact isPlainChar_of_mem_toDigits hc
    · exact isPlainChar_of_mem_zeros hc
  · rcases List.mem_append.mp hc with hc | hc
    · exact isPlainChar_of_mem_toDigits (List.mem_of_mem_take hc)
    · rcases List.mem_cons.mp hc with rfl | hc
      · exact hpoint
      · exact isPlainChar_of_mem_toDigits (List.mem_of_mem_drop hc)
  · simp only [List.cons_append, List.mem_cons, List.mem_append] at hc
    rcases hc with rfl | rfl | hc | hc
    · exact hzero
    · exact hpoint
    · exact isPlainChar_of_mem_zeros hc
    · exact isPlainChar_of_mem_toDigits hc

theorem isPlain_positional (n : Numeral) : isPlain n.positional := by
  cases n with
  | finite d =>
      rw [isPlain_iff, Numeral.positional, Decimal.positional, String.toList_ofList]
      intro c hc
      rcases List.mem_append.mp hc with hc | hc
      · have hsign : c = '-' := by grind [Decimal.sign]
        rw [hsign]
        decide
      · exact isPlainChar_of_mem_magnitude hc
  | infinite negative => cases negative <;> decide
  | undefined => decide

variable [Scalar R]

@[simp]
theorem isPlain_text (x : R) : isPlain (Scalar.text x) := isPlain_positional _

@[simp]
theorem isPlain_hex (c : Color R) : isPlain c.hex := by
  simp [isPlain, Color.hex, Color.hexByte, isPlainChar_digitChar]
  decide

@[simp]
theorem isPlain_path (p : Path R) : isPlain p.text := by
  refine isPlain_intercalate (by decide) fun s hs ↦ ?_
  obtain ⟨step, -, rfl⟩ := List.mem_map.mp hs
  cases step <;> simp [Path.stepText, Path.pointText, isPlain_text] <;> decide

end Markup

namespace Graphics

open Markup

/-! ## Attributes -/

variable [Scalar R]

theorem isSound_rectAttributes (r : Rect R) : ∀ a ∈ rectAttributes r, IsSoundAttribute a := by
  simp [rectAttributes, number, IsSoundAttribute]
  decide

theorem isSound_lineAttributes (s : Segment R) : ∀ a ∈ lineAttributes s, IsSoundAttribute a := by
  simp [lineAttributes, number, IsSoundAttribute]
  decide

theorem isSound_paint (m : Mark R) : ∀ a ∈ paint m, IsSoundAttribute a := by
  have hnone : isPlain "none" := by decide
  cases hfilled : m.filled <;> simp [paint, hfilled, number, IsSoundAttribute, hnone] <;> decide

/-! ## What is drawn -/

/-- The tags of elements that hold no text of a scene themselves. -/
def IsShapeTag (tag : String) : Prop := isName tag ∧ tag ≠ "text" ∧ tag ≠ "title"

instance (tag : String) : Decidable (IsShapeTag tag) := inferInstanceAs (Decidable (_ ∧ _))

/-- What is drawn is sound markup; its text elements hold the first texts, and its title elements
the others. -/
structure Draws (content : List Markup) (texts tips : List String) : Prop where
  /-- The markup is sound. -/
  sound : ∀ m ∈ content, m.IsSound
  /-- The data of the text elements. -/
  texts_eq : dataOf "text" (contentElements content) = texts
  /-- The data of the title elements. -/
  tips_eq : dataOf "title" (contentElements content) = tips

namespace Draws

variable {content content' : List Markup} {texts texts' tips tips' : List String}

theorem nil : Draws [] [] [] := ⟨by simp, rfl, rfl⟩

theorem append (h : Draws content texts tips) (h' : Draws content' texts' tips') :
    Draws (content ++ content') (texts ++ texts') (tips ++ tips') where
  sound := List.forall_mem_append.mpr ⟨h.sound, h'.sound⟩
  texts_eq := by
    rw [← h.texts_eq, ← h'.texts_eq]
    simp [dataOf, contentElements_eq]
  tips_eq := by
    rw [← h.tips_eq, ← h'.tips_eq]
    simp [dataOf, contentElements_eq]

theorem flatMap {α : Type} {l : List α} {f : α → List Markup} {texts tips : α → List String}
    (h : ∀ x ∈ l, Draws (f x) (texts x) (tips x)) :
    Draws (l.flatMap f) (l.flatMap texts) (l.flatMap tips) := by
  induction l with
  | nil => exact nil
  | cons x l ih =>
      simp only [List.flatMap_cons]
      exact (h x (by simp)).append (ih fun y hy ↦ h y (by simp [hy]))

theorem flatMap_texts {α : Type} {l : List α} {f : α → List Markup} {texts : α → List String}
    (h : ∀ x ∈ l, Draws (f x) (texts x) []) : Draws (l.flatMap f) (l.flatMap texts) [] := by
  have hall := flatMap h
  rwa [List.flatMap_eq_nil_iff.mpr fun _ _ ↦ rfl] at hall

theorem flatMap_nil {α : Type} {l : List α} {f : α → List Markup}
    (h : ∀ x ∈ l, Draws (f x) [] []) : Draws (l.flatMap f) [] [] := by
  have hall := flatMap_texts h
  rwa [List.flatMap_eq_nil_iff.mpr fun _ _ ↦ rfl] at hall

/-- An element without content on a line of its own shows nothing. -/
theorem empty {tag : String} {attributes : List (String × String)} (htag : IsShapeTag tag)
    (hattributes : ∀ a ∈ attributes, IsSoundAttribute a) :
    Draws (Markup.empty tag attributes).onLine [] [] where
  sound := by simp [onLine, IsSound.empty htag.1 hattributes, IsSound.chars]
  texts_eq := by simp [onLine, contentElements, elements, dataOf, htag.2.1]
  tips_eq := by simp [onLine, contentElements, elements, dataOf, htag.2.2]

/-- An element on a line of its own shows what its content shows. -/
theorem block {tag : String} {attributes : List (String × String)} (htag : IsShapeTag tag)
    (hattributes : ∀ a ∈ attributes, IsSoundAttribute a) (h : Draws content texts tips) :
    Draws (Markup.block tag attributes content).onLine texts tips where
  sound := by
    have hcontent : ∀ m ∈ chars "\n" :: content, m.IsSound :=
      List.forall_mem_cons.mpr ⟨.chars _, h.sound⟩
    simp [onLine, Markup.block, IsSound.element htag.1 hattributes hcontent, IsSound.chars]
  texts_eq := by
    rw [← h.texts_eq]
    simp [onLine, Markup.block, contentElements, elements, dataOf, htag.2.1]
  tips_eq := by
    rw [← h.tips_eq]
    simp [onLine, Markup.block, contentElements, elements, dataOf, htag.2.2]

end Draws

theorem draws_line (s : Segment R) {stroke : String} (hstroke : isPlain stroke) :
    Draws (line s stroke) [] [] := by
  refine Draws.empty (by decide) (List.forall_mem_append.mpr
    ⟨isSound_lineAttributes s, ?_⟩)
  simp [IsSoundAttribute, hstroke]
  decide

theorem draws_outline (r : Rect R) {stroke : String} (hstroke : isPlain stroke) :
    Draws (outline r stroke) [] [] := by
  refine Draws.empty (by decide) ?_
  simp [IsSoundAttribute, hstroke]
  decide

theorem draws_label (p : Point R) (fontSize : R) {anchor fill : String} (hanchor : isPlain anchor)
    (hfill : isPlain fill) (text : String) :
    Draws (label p fontSize anchor text fill) [text] [] where
  sound := by
    have hlabel : ∀ m ∈ [Markup.chars text], m.IsSound := by simp [IsSound.chars]
    simp only [label, onLine, List.forall_mem_cons]
    refine ⟨.element (by decide) ?_ hlabel, .chars _, by simp⟩
    simp [number, IsSoundAttribute, hanchor, hfill]
    decide
  texts_eq := by simp [label, onLine, contentElements, elements, ownData, dataOf]
  tips_eq := by simp [label, onLine, contentElements, elements, ownData, dataOf]

theorem draws_hoverable {tag : String} {attributes : List (String × String)} (htag : IsShapeTag tag)
    (hattributes : ∀ a ∈ attributes, IsSoundAttribute a) (tooltip : Option String) :
    Draws (hoverable tag attributes tooltip) [] tooltip.toList := by
  cases tooltip with
  | none => exact .empty htag hattributes
  | some tip =>
      have htip : (Markup.element "title" [] [.chars tip]).IsSound :=
        .element (by decide) (by simp) (by simp [IsSound.chars])
      constructor
      · simp only [hoverable, onLine, List.forall_mem_cons]
        exact ⟨.element htag.1 hattributes (by simp [htip]), .chars _, by simp⟩
      · simp [hoverable, onLine, contentElements, elements, ownData, dataOf, htag.2.1]
      · simp [hoverable, onLine, contentElements, elements, ownData, dataOf, htag.2.2]

theorem draws_mark (origin : Point R) (m : Mark R) :
    Draws (mark origin m) m.text?.toList m.tip?.toList := by
  unfold mark Mark.text? Mark.tip?
  cases m.figure with
  | symbol shape center area =>
      have hname : isName "d" := by decide
      exact draws_hoverable (by decide) (List.forall_mem_cons.mpr
        ⟨⟨hname, isPlain_path _⟩, isSound_paint m⟩) _
  | rect r =>
      exact draws_hoverable (by decide) (List.forall_mem_append.mpr
        ⟨isSound_rectAttributes _, isSound_paint m⟩) _
  | rule s | tick s =>
      refine draws_hoverable (by decide) (List.forall_mem_append.mpr
        ⟨isSound_lineAttributes _, ?_⟩) _
      simp [number, IsSoundAttribute]
      decide
  | text anchor s fontSize => exact draws_label _ _ (by decide) (isPlain_hex _) s
  | line points =>
      refine draws_hoverable (by decide) ?_ _
      simp [number, IsSoundAttribute]
      decide
  | area points baseline =>
      refine draws_hoverable (by decide) ?_ _
      simp [number, IsSoundAttribute]
      decide

/-! ## Cells, axes, legends and headers -/

theorem isPlain_ink : isPlain ink := by decide

theorem draws_cell (c : SceneCell R) :
    Draws (cell c) (c.marks.filterMap Mark.text?) (c.marks.filterMap Mark.tip?) := by
  have hmarks := Draws.flatMap fun m (_ : m ∈ c.marks) ↦ draws_mark c.bounds.origin m
  rw [List.filterMap_eq_flatMap_toList, List.filterMap_eq_flatMap_toList]
  exact (draws_outline _ (by decide)).append hmarks

theorem draws_title (s : Strip R) (style : AxisStyle R) (middle : R) (text : String) :
    Draws (s.title style middle text) [text] [] := by
  have hlabel : Draws (label (s.titlePoint style middle) style.titleFontSize "middle" text ink)
      [text] [] := draws_label _ _ (by decide) isPlain_ink text
  unfold Strip.title
  dsimp only
  split_ifs
  · exact hlabel
  · refine hlabel.block (by decide) ?_
    simp [IsSoundAttribute]
    decide

theorem draws_tick (s : Strip R) (style : AxisStyle R) (t : AxisTick R) :
    Draws (s.tick style t) [t.label] [] :=
  (draws_line _ isPlain_ink).append
    (draws_label _ _ (by unfold Strip.anchor; split <;> decide) isPlain_ink _)

theorem draws_shownTitle {content : List Markup} {title : String}
    (h : Draws content [title] []) :
    Draws (if title.isEmpty then [] else content) (shownTitle title) [] := by
  unfold shownTitle
  split_ifs
  · exact .nil
  · exact h

theorem draws_strip (s : Strip R) (style : AxisStyle R) (a : Axis R) :
    Draws (s.axis style a) (a.ticks.map (·.label) ++ shownTitle a.title) [] := by
  have hticks := Draws.flatMap_texts fun t (_ : t ∈ a.ticks) ↦ draws_tick s style t
  have htitle := draws_shownTitle (draws_title s style (0.5 * (a.range.1 + a.range.2)) a.title)
  rw [List.map_eq_flatMap]
  exact ((draws_line _ isPlain_ink).append hticks).append htitle

theorem draws_axis (style : AxisStyle R) (a : Axis R) : Draws (axis style a) a.texts [] :=
  .flatMap_texts fun _ _ ↦ draws_strip _ style a

theorem draws_legendRow (l : Legend R) (config : Config R) (i : Nat) (e : LegendEntry R) :
    Draws (legendRow l config i e) [e.label] [] := by
  refine Draws.append (.empty (by decide) ?_)
    (draws_label _ _ (by decide) isPlain_ink _)
  simp [number, IsSoundAttribute]
  decide

theorem draws_rampPiece (l : Legend R) (config : Config R) (i : Nat) (e : LegendEntry R) :
    Draws (rampPiece l config i e) [] [] := by
  refine .empty (by decide) (List.forall_mem_append.mpr
    ⟨isSound_rectAttributes _, ?_⟩)
  simp [IsSoundAttribute]
  decide

theorem draws_rampLabel (l : Legend R) (style : LegendStyle R) (i : Nat) (e : LegendEntry R) :
    Draws (rampLabel l style i e) [e.label] [] :=
  draws_label _ _ (by decide) isPlain_ink _

theorem draws_legendBody (l : Legend R) (config : Config R) :
    Draws (legendBody l config) (l.entries.map (·.label)) [] := by
  have hlabels : l.entries.map (·.label) = l.entries.zipIdx.flatMap fun p ↦ [p.1.label] := by
    rw [← List.map_eq_flatMap, ← congrArg (List.map LegendEntry.label)
      (List.zipIdx_map_fst 0 l.entries), List.map_map]
    rfl
  rw [hlabels, legendBody]
  dsimp only
  split
  · exact .flatMap_texts fun p _ ↦ draws_legendRow l config p.2 p.1
  · exact Draws.append (.flatMap_nil fun p _ ↦ draws_rampPiece l config p.2 p.1)
      (.flatMap_texts fun p _ ↦ draws_rampLabel l config.legend p.2 p.1)

theorem draws_legend (config : Config R) (l : Legend R) : Draws (legend config l) l.texts [] :=
  (draws_shownTitle (draws_label _ _ (by decide) isPlain_ink _)).append (draws_legendBody l config)

theorem draws_header (config : Config R) (h : FacetHeader R) :
    Draws (header config h) [h.text] [] :=
  draws_label _ _ (by decide) isPlain_ink _

theorem draws_content (s : Scene R) (config : Config R) :
    Draws (content s config) s.texts s.tips := by
  have hground : Draws (ground s.view) [] [] :=
    .empty (by decide) (List.forall_mem_append.mpr
      ⟨isSound_rectAttributes _, by simp [IsSoundAttribute]; decide⟩)
  have hcells := Draws.flatMap fun c (_ : c ∈ s.cells) ↦ draws_cell c
  have haxes := Draws.flatMap_texts fun a (_ : a ∈ s.allAxes) ↦ draws_axis config.axis a
  have hlegends := Draws.flatMap_texts fun l (_ : l ∈ s.allLegends) ↦ draws_legend config l
  have hheaders := Draws.flatMap_texts fun h (_ : h ∈ s.headers) ↦ draws_header config h
  have hall := (((hground.append hcells).append haxes).append hlegends).append hheaders
  simp only [List.nil_append, List.append_nil] at hall
  rwa [Scene.texts, Scene.tips, Scene.marks, List.filterMap_flatMap, List.filterMap_flatMap,
    List.map_eq_flatMap]

theorem isSound_picture (s : Scene R) (config : Config R) : (picture s config).IsSound := by
  refine .element (by decide) ?_
    (List.forall_mem_cons.mpr ⟨.chars _, (draws_content s config).sound⟩)
  have hbox : isPlain (" ".intercalate
      ([s.view.x0, s.view.y0, s.view.width, s.view.height].map Scalar.text)) := by
    refine isPlain_intercalate (by decide) fun t ht ↦ ?_
    obtain ⟨x, -, rfl⟩ := List.mem_map.mp ht
    exact isPlain_text x
  simp only [List.forall_mem_cons]
  refine ⟨⟨by decide, by decide⟩, ⟨?_, hbox⟩, ⟨?_, isPlain_text _⟩, ⟨?_, isPlain_text _⟩, by simp⟩
  all_goals
    dsimp only [number]
    decide

end Graphics

/-- The picture of a scene is well-formed markup with plain attributes, whatever the texts of the
scene are.  Its text elements hold the texts that the scene shows, and its title elements those that
it shows on hovering. -/
theorem Scene.read?_picture [Scalar R] (s : Scene R) (config : Config R) :
    ∃ es, Markup.read? (s.picture config) = some es ∧
      (∀ e ∈ es, ∀ a ∈ e.attributes, Markup.isPlain a.2) ∧
      Markup.dataOf "text" es = s.texts ∧ Markup.dataOf "title" es = s.tips := by
  obtain ⟨hsound, htexts, htips⟩ := Graphics.draws_content s config
  have hpicture := Graphics.isSound_picture s config
  refine ⟨(Graphics.picture s config).elements, Markup.read?_element hpicture, fun e he a ha ↦
    (hpicture.of_mem_elements e he a ha).2, ?_, ?_⟩
  · rw [← htexts]
    simp [Graphics.picture, Markup.block, Markup.elements, Markup.contentElements, Markup.dataOf]
  · rw [← htips]
    simp [Graphics.picture, Markup.block, Markup.elements, Markup.contentElements, Markup.dataOf]

end Charting
