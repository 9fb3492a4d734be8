import Charting.Graphics.Markup
import Mathlib.Tactic.FinCases

/-!
# Reading markup

Markup is read from the left, one character at a time.  The reader knows nothing of trees: it keeps
the elements that are open, and whatever it cannot place makes it stop.  The notation of a tree is
read to its end, and the elements that are read are those of the tree, in the order of their ends.
-/

namespace Charting

namespace Markup

/-! ## The reader -/

/-- An element as it is read: its tag, its attributes, and the character data directly inside it,
where each entity stands for its character. -/
structure Element where
  /-- The tag. -/
  tag : String
  /-- The attributes, in order. -/
  attributes : List (String × String)
  /-- The character data. -/
  data : String
deriving DecidableEq

/-- Names hold letters, digits and hyphens. -/
def isNameChar (c : Char) : Bool := c.isAlphanum || c == '-'

/-- Names begin with a letter. -/
def isName (s : String) : Bool :=
  match s.toList with
  | [] => false
  | c :: cs => c.isAlpha && cs.all isNameChar

/-- What has no meaning of its own in markup. -/
def isPlainChar (c : Char) : Bool := c != '&' && c != '<' && c != '>' && c != '"' && c != '\''

theorem isPlainChar_iff {c : Char} : isPlainChar c ↔ c ∉ ['&', '<', '>', '"', '\''] := by
  simp [isPlainChar, and_assoc]

/-- The values of attributes are plain. -/
def isPlain (s : String) : Bool := s.toList.all isPlainChar

/-- The character that an entity stands for. -/
def entityChar? : String → Option Char
  | "amp" => some '&'
  | "lt" => some '<'
  | "gt" => some '>'
  | "quot" => some '"'
  | "apos" => some '\''
  | _ => none

/-- What the reader is in the middle of, with what it has read of it. -/
inductive Mode where
  /-- Character data. -/
  | data
  /-- An entity, after its ampersand. -/
  | entity (name : String)
  /-- A tag, of which only the bracket was read. -/
  | bracket
  /-- The name in a start tag. -/
  | startTag (tag : String)
  /-- A start tag, in which an attribute must follow. -/
  | blank (tag : String) (attributes : List (String × String))
  /-- The name of an attribute. -/
  | name (tag : String) (attributes : List (String × String)) (name : String)
  /-- An attribute, whose value must follow. -/
  | equals (tag : String) (attributes : List (String × String)) (name : String)
  /-- The value of an attribute, after its first quote. -/
  | value (tag : String) (attributes : List (String × String)) (name value : String)
  /-- A start tag, after an attribute. -/
  | quoted (tag : String) (attributes : List (String × String))
  /-- The tag of an element without content, which must end. -/
  | slash (tag : String) (attributes : List (String × String))
  /-- The name in an end tag. -/
  | endTag (tag : String)
deriving DecidableEq

/-- The state of the reader. -/
structure State where
  /-- What the reader is in the middle of. -/
  mode : Mode
  /-- The open elements, the innermost first, with their character data so far. -/
  opened : List Element
  /-- The elements that have ended, in the order of their ends. -/
  closed : List Element
deriving DecidableEq

namespace State

/-- Adds a character to the data of the innermost open element; outside of all elements there is
nothing but white space. -/
def addData (s : State) (c : Char) : Option State :=
  match s.opened with
  | e :: rest => some { s with mode := .data, opened := { e with data := e.data.push c } :: rest }
  | [] => if c.isWhitespace then some { s with mode := .data } else none

/-- Goes on in a start tag. -/
def inTag (s : State) (tag : String) (attributes : List (String × String)) (c : Char) :
    Option State :=
  if c = ' ' then some { s with mode := .blank tag attributes }
  else if c = '/' then some { s with mode := .slash tag attributes }
  else if c = '>' then some { s with mode := .data, opened := ⟨tag, attributes, ""⟩ :: s.opened }
  else none

/-- Ends the innermost open element, if it has the tag. -/
def close (s : State) (tag : String) : Option State :=
  match s.opened with
  | e :: rest => if e.tag = tag then some ⟨.data, rest, s.closed ++ [e]⟩ else none
  | [] => none

/-- Reads one character. -/
def step (s : State) (c : Char) : Option State :=
  match s.mode with
  | .data =>
    if c = '<' then some { s with mode := .bracket }
    else if c = '&' then some { s with mode := .entity "" }
    else if isPlainChar c then s.addData c
    else none
  | .entity name =>
    if c = ';' then (entityChar? name).bind s.addData
    else some { s with mode := .entity (name.push c) }
  | .bracket =>
    if c = '/' then some { s with mode := .endTag "" }
    else if c.isAlpha then some { s with mode := .startTag (String.singleton c) }
    else none
  | .startTag tag =>
    if isNameChar c then some { s with mode := .startTag (tag.push c) } else s.inTag tag [] c
  | .blank tag attributes =>
    if c.isAlpha then some { s with mode := .name tag attributes (String.singleton c) } else none
  | .name tag attributes name =>
    if isNameChar c then some { s with mode := .name tag attributes (name.push c) }
    else if c = '=' then some { s with mode := .equals tag attributes name }
    else none
  | .equals tag attributes name =>
    if c = '"' then some { s with mode := .value tag attributes name "" } else none
  | .value tag attributes name value =>
    if c = '"' then some { s with mode := .quoted tag (attributes ++ [(name, value)]) }
    else if isPlainChar c then some { s with mode := .value tag attributes name (value.push c) }
    else none
  | .quoted tag attributes => s.inTag tag attributes c
  | .slash tag attributes =>
    if c = '>' then some ⟨.data, s.opened, s.closed ++ [⟨tag, attributes, ""⟩]⟩ else none
  | .endTag tag =>
    if c = '>' then s.close tag else some { s with mode := .endTag (tag.push c) }

/-- Reads a text. -/
def run (s : State) (cs : List Char) : Option State := cs.foldlM step s

end State

/-- The elements of well-formed markup, in the order of their ends. -/
def read? (text : String) : Option (List Element) := do
  let s ← State.run ⟨.data, [], []⟩ text.toList
  if s.mode = .data ∧ s.opened = [] then some s.closed else none

/-- The character data of the elements with a tag. -/
def dataOf (tag : String) (es : List Element) : List String :=
  es.filterMap fun e ↦ if e.tag = tag then some e.data else none

/-! ## Trees -/

/-- The character data that a piece of markup adds to the element around it. -/
def ownData : Markup → String
  | chars s => s
  | empty .. | element .. => ""

mutual

/-- The elements of a piece of markup, in the order of their ends. -/
def elements : Markup → List Element
  | chars _ => []
  | empty tag attributes => [⟨tag, attributes, ""⟩]
  | element tag attributes content =>
    contentElements content ++ [⟨tag, attributes, String.join (content.map ownData)⟩]

/-- The elements of pieces of markup, one after another. -/
def contentElements : List Markup → List Element
  | [] => []
  | m :: rest => elements m ++ contentElements rest

end

/-- Whether an attribute can be written as it is. -/
def IsSoundAttribute (a : String × String) : Prop := isName a.1 ∧ isPlain a.2

/-- Tags are names, and all attributes can be written as they are.  Nothing is asked of character
data. -/
inductive IsSound : Markup → Prop
  | chars (s : String) : IsSound (chars s)
  | empty {tag : String} {attributes : List (String × String)} (htag : isName tag)
      (hattributes : ∀ a ∈ attributes, IsSoundAttribute a) : IsSound (empty tag attributes)
  | element {tag : String} {attributes : List (String × String)} {content : List Markup}
      (htag : isName tag) (hattributes : ∀ a ∈ attributes, IsSoundAttribute a)
      (hcontent : ∀ m ∈ content, IsSound m) : IsSound (element tag attributes content)

/-! ## Reading what was written -/

namespace State

theorem run_append (s : State) (cs ds : List Char) :
    s.run (cs ++ ds) = (s.run cs).bind fun s' ↦ s'.run ds := by
  simp [run, List.foldlM_append]

@[simp]
theorem run_nil (s : State) : s.run [] = some s := rfl

@[simp]
theorem run_cons (s : State) (c : Char) (cs : List Char) :
    s.run (c :: cs) = (s.step c).bind fun s' ↦ s'.run cs := by
  simp [run]

variable {opened closed : List Element} {tag : String} {attributes : List (String × String)}

/-- A mode that collects characters collects a run of them. -/
theorem run_collect (mode : String → Mode) {cs : List Char}
    (hstep : ∀ s, ∀ c ∈ cs,
      step ⟨mode s, opened, closed⟩ c = some ⟨mode (s.push c), opened, closed⟩) (s : String) :
    run ⟨mode s, opened, closed⟩ cs = some ⟨mode (s ++ String.ofList cs), opened, closed⟩ := by
  induction cs generalizing s with
  | nil => simp
  | cons c cs ih =>
      have hs : s.push c ++ String.ofList cs = s ++ String.ofList (c :: cs) := by
        apply String.ext
        simp
      rw [run_cons, hstep s c (by simp), Option.bind_some,
        ih fun s d hd ↦ hstep s d (by simp [hd]), hs]

theorem exists_of_isName {s : String} (h : isName s) :
    ∃ c cs, s = String.ofList (c :: cs) ∧ c.isAlpha ∧ ∀ d ∈ cs, isNameChar d := by
  unfold isName at h
  split at h
  · contradiction
  · rename_i c cs hs
    rw [Bool.and_eq_true, List.all_eq_true] at h
    exact ⟨c, cs, by rw [← hs, String.ofList_toList], h⟩

theorem run_startTag (htag : isName tag) :
    run ⟨.data, opened, closed⟩ ('<' :: tag.toList) = some ⟨.startTag tag, opened, closed⟩ := by
  obtain ⟨c, cs, rfl, hc, hcs⟩ := exists_of_isName htag
  have hrest (s : String) : run ⟨.startTag s, opened, closed⟩ cs =
      some ⟨.startTag (s ++ String.ofList cs), opened, closed⟩ :=
    run_collect .startTag (fun s d hd ↦ by simp [step, hcs d hd]) s
  have hslash : c ≠ '/' := by rintro rfl; contradiction
  simp [step, hslash, hc, hrest]

theorem run_endTag (htag : isName tag) (data : String) :
    run ⟨.data, ⟨tag, attributes, data⟩ :: opened, closed⟩ ('<' :: '/' :: (tag.toList ++ ['>'])) =
      some ⟨.data, opened, closed ++ [⟨tag, attributes, data⟩]⟩ := by
  obtain ⟨c, cs, hname, hc, hcs⟩ := exists_of_isName htag
  have hend : ∀ d ∈ tag.toList, d ≠ '>' := by
    rw [hname, String.toList_ofList]
    rintro d hd rfl
    rcases List.mem_cons.mp hd with rfl | hd
    · contradiction
    · exact absurd (hcs _ hd) (by decide)
  have htag : run ⟨.endTag "", ⟨tag, attributes, data⟩ :: opened, closed⟩ tag.toList =
      some ⟨.endTag ("" ++ String.ofList tag.toList), ⟨tag, attributes, data⟩ :: opened, closed⟩ :=
    run_collect .endTag (fun s d hd ↦ by simp [step, hend d hd]) ""
  simp [step, run_append, htag, close]

/-- Where a start tag can go on or end. -/
def IsInTag (mode : Mode) (tag : String) (attributes : List (String × String)) : Prop :=
  mode = .startTag tag ∧ attributes = [] ∨ mode = .quoted tag attributes

theorem step_of_isInTag {mode : Mode} (h : IsInTag mode tag attributes) {c : Char}
    (hc : isNameChar c = false) :
    step ⟨mode, opened, closed⟩ c = inTag ⟨mode, opened, closed⟩ tag attributes c := by
  obtain ⟨rfl, rfl⟩ | rfl := h
  · simp [step, hc]
  · rfl

theorem run_attribute {mode : Mode} (h : IsInTag mode tag attributes) {a : String × String}
    (ha : IsSoundAttribute a) :
    run ⟨mode, opened, closed⟩ (' ' :: (a.1.toList ++ '=' :: '"' :: (a.2.toList ++ ['"']))) =
      some ⟨.quoted tag (attributes ++ [a]), opened, closed⟩ := by
  obtain ⟨name, value⟩ := a
  obtain ⟨hname, hvalue⟩ := ha
  obtain ⟨c, cs, rfl, hc, hcs⟩ := exists_of_isName hname
  have hrest (s : String) : run ⟨.name tag attributes s, opened, closed⟩ cs =
      some ⟨.name tag attributes (s ++ String.ofList cs), opened, closed⟩ :=
    run_collect (.name tag attributes) (fun s d hd ↦ by simp [step, hcs d hd]) s
  have hvalue (name s : String) : run ⟨.value tag attributes name s, opened, closed⟩ value.toList =
      some ⟨.value tag attributes name (s ++ String.ofList value.toList), opened, closed⟩ :=
    run_collect (.value tag attributes name) (fun s d hd ↦ by
      have hplain : isPlainChar d := List.all_eq_true.mp hvalue d hd
      have hquote : d ≠ '"' := by rintro rfl; contradiction
      simp [step, hplain, hquote]) s
  have hequals : isNameChar '=' = false := by decide
  rw [run_cons, step_of_isInTag h (by decide)]
  simp [run_append, inTag, step, hc, hrest, hvalue, hequals]

/-- A character that is written in character data is read as itself. -/
theorem run_escapeChar (c : Char) (e : Element) :
    run ⟨.data, e :: opened, closed⟩ (escapeChar c) =
      some ⟨.data, { e with data := e.data.push c } :: opened, closed⟩ := by
  by_cases hc : c ∈ ['&', '<', '>', '"', '\'']
  · fin_cases hc <;> simp [escapeChar, step, entityChar?, addData]
  · have hplain := isPlainChar_iff.mpr hc
    obtain ⟨hamp, hlt, hgt, hquot, hapos⟩ :
        c ≠ '&' ∧ c ≠ '<' ∧ c ≠ '>' ∧ c ≠ '"' ∧ c ≠ '\'' := by simpa using hc
    simp [escapeChar, step, addData, hplain, hamp, hlt, hgt, hquot, hapos]

/-- A text that is written as character data is read as itself. -/
theorem run_escapeMarkup (s : String) (e : Element) :
    run ⟨.data, e :: opened, closed⟩ (escapeMarkup s).toList =
      some ⟨.data, { e with data := e.data ++ s } :: opened, closed⟩ := by
  rw [escapeMarkup, String.toList_ofList]
  obtain ⟨cs, rfl⟩ : ∃ cs, s = String.ofList cs := ⟨s.toList, by simp⟩
  rw [String.toList_ofList]
  induction cs generalizing e with
  | nil => simp
  | cons c cs ih =>
      have hdata : e.data.push c ++ String.ofList cs = e.data ++ String.ofList (c :: cs) := by
        apply String.ext
        simp
      rw [List.flatMap_cons, run_append, run_escapeChar, Option.bind_some, ih, hdata]

variable (opened closed) in
theorem run_attributesText (hattributes : ∀ a ∈ attributes, IsSoundAttribute a) {mode : Mode}
    {before : List (String × String)} (h : IsInTag mode tag before) :
    ∃ mode', IsInTag mode' tag (before ++ attributes) ∧
      run ⟨mode, opened, closed⟩ (attributesText attributes).toList =
        some ⟨mode', opened, closed⟩ := by
  induction attributes generalizing mode before with
  | nil => exact ⟨mode, by simpa using h, by simp [attributesText]⟩
  | cons a attributes ih =>
      obtain ⟨mode', hmode', hrun⟩ := ih (fun a' ha' ↦ hattributes a' (by simp [ha']))
        (.inr rfl : IsInTag (.quoted tag (before ++ [a])) tag (before ++ [a]))
      refine ⟨mode', by simpa using hmode', ?_⟩
      have htext : (attributesText (a :: attributes)).toList =
          ' ' :: (a.1.toList ++ '=' :: '"' :: (a.2.toList ++ ['"'])) ++
            (attributesText attributes).toList := by
        simp [attributesText]
      rw [htext, run_append, run_attribute h (hattributes a (by simp)), Option.bind_some, hrun]

variable (opened closed) in
/-- A start tag is read up to where it ends. -/
theorem run_tag (htag : isName tag)
    (hattributes : ∀ a ∈ attributes, IsSoundAttribute a) :
    ∃ mode, IsInTag mode tag attributes ∧
      run ⟨.data, opened, closed⟩ ('<' :: (tag.toList ++ (attributesText attributes).toList)) =
        some ⟨mode, opened, closed⟩ := by
  obtain ⟨mode, hmode, hrun⟩ := run_attributesText opened closed hattributes
    (.inl ⟨rfl, rfl⟩ : IsInTag (.startTag tag) tag [])
  refine ⟨mode, by simpa using hmode, ?_⟩
  rw [← List.cons_append, run_append, run_startTag htag, Option.bind_some, hrun]

/-- Whether a piece of markup is read, inside an open element, as its data and its elements. -/
def ReadsInside (m : Markup) : Prop :=
  ∀ e opened closed, run ⟨.data, e :: opened, closed⟩ m.text.toList =
    some ⟨.data, { e with data := e.data ++ m.ownData } :: opened, closed ++ m.elements⟩

theorem run_contentText {content : List Markup} (hcontent : ∀ m ∈ content, ReadsInside m)
    (e : Element) : run ⟨.data, e :: opened, closed⟩ (contentText content).toList =
      some ⟨.data, { e with data := e.data ++ String.join (content.map ownData) } :: opened,
        closed ++ contentElements content⟩ := by
  induction content generalizing e closed with
  | nil => simp [contentText, contentElements]
  | cons m content ih =>
      rw [contentText, String.toList_append, run_append, hcontent m (by simp), Option.bind_some,
        ih fun m' hm' ↦ hcontent m' (by simp [hm'])]
      simp [contentElements, String.append_assoc]

variable (opened closed) in
/-- An element is read wherever character data can stand. -/
theorem run_element {content : List Markup} (htag : isName tag)
    (hattributes : ∀ a ∈ attributes, IsSoundAttribute a)
    (hcontent : ∀ m ∈ content, ReadsInside m) :
    run ⟨.data, opened, closed⟩ (element tag attributes content).text.toList =
      some ⟨.data, opened, closed ++ (element tag attributes content).elements⟩ := by
  obtain ⟨mode, hmode, htags⟩ := run_tag opened closed htag hattributes
  have htext : (element tag attributes content).text.toList =
      '<' :: (tag.toList ++ (attributesText attributes).toList) ++
        '>' :: ((contentText content).toList ++ '<' :: '/' :: (tag.toList ++ ['>'])) := by
    simp [text]
  have hopen : inTag ⟨mode, opened, closed⟩ tag attributes '>' =
      some ⟨.data, ⟨tag, attributes, ""⟩ :: opened, closed⟩ := by simp [inTag]
  rw [htext, run_append, htags, Option.bind_some, run_cons, step_of_isInTag hmode (by decide),
    hopen, Option.bind_some, run_append, run_contentText hcontent, Option.bind_some, run_endTag htag]
  simp [elements]

/-- Markup is read as what it is, by induction on the tree. -/
theorem readsInside {m : Markup} (hm : m.IsSound) : ReadsInside m := by
  induction hm with
  | chars s =>
      intro e opened closed
      simp [text, run_escapeMarkup, ownData, elements]
  | @empty tag attributes htag hattributes =>
      intro e opened closed
      obtain ⟨mode, hmode, htags⟩ := run_tag (e :: opened) closed htag hattributes
      have htext : (empty tag attributes).text.toList =
          '<' :: (tag.toList ++ (attributesText attributes).toList) ++ ['/', '>'] := by simp [text]
      rw [htext, run_append, htags, Option.bind_some, run_cons, step_of_isInTag hmode (by decide)]
      simp [inTag, step, ownData, elements]
  | element htag hattributes _ ih =>
      intro e opened closed
      rw [run_element _ _ htag hattributes ih]
      simp [ownData]

end State

theorem contentElements_eq (content : List Markup) :
    contentElements content = content.flatMap elements := by
  induction content with
  | nil => rfl
  | cons m content ih => rw [contentElements, ih, List.flatMap_cons]

theorem IsSound.of_mem_elements {m : Markup} (hm : m.IsSound) :
    ∀ e ∈ m.elements, ∀ a ∈ e.attributes, IsSoundAttribute a := by
  induction hm with
  | chars s => simp [elements]
  | empty _ hattributes => simpa [elements] using hattributes
  | element _ hattributes _ ih =>
      intro e he
      rw [elements, contentElements_eq, List.mem_append, List.mem_flatMap, List.mem_singleton] at he
      obtain ⟨m, hm, he⟩ | rfl := he
      · exact ih m hm e he
      · exact hattributes

/-- An element on a line of its own is well formed, and its elements are those of the tree. -/
theorem read?_element {tag : String} {attributes : List (String × String)} {content : List Markup}
    (h : (element tag attributes content).IsSound) :
    read? ((element tag attributes content).text ++ "\n") =
      some (element tag attributes content).elements := by
  obtain ⟨htag, hattributes, hcontent⟩ : isName tag ∧ (∀ a ∈ attributes, IsSoundAttribute a) ∧
      ∀ m ∈ content, m.IsSound := by
    cases h with
    | element htag hattributes hcontent => exact ⟨htag, hattributes, hcontent⟩
  have hrun := State.run_element [] [] htag hattributes fun m hm ↦ State.readsInside (hcontent m hm)
  have hline (closed : List Element) :
      State.step ⟨.data, [], closed⟩ '\n' = some ⟨.data, [], closed⟩ := by
    simp [State.step, State.addData, isPlainChar]
  simp [read?, State.run_append, hrun, hline]

example : read? "<a b=\"c\">1 &lt; 2<d/></a>" =
    some [⟨"d", [], ""⟩, ⟨"a", [("b", "c")], "1 < 2"⟩] := by
  decide

example : read? "<a>1 & 2</a>" = none := by decide

end Markup

end Charting
