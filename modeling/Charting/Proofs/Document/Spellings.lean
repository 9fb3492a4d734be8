import Charting.Document.Reading
import Charting.Numeric.Exact
import Charting.Proofs.Json.Members
import Charting.Proofs.Success

/-!
# Three places for encodings

An encoding stands in the list of a document, under the name of its channel, or as a column or a row
of the grid.  `ChartDocument.flattened` moves all of them to the list, each with the name of its
channel, and `ChartDocument.ofJson_flattened` says that the document then means the same.  The three
places are read at different times and by different functions; `ChartDocument.ofDraft_ok_iff` says
that what comes of them is the bindings of one list all the same.
-/

namespace Charting

open Json (Draft fields? optional? withDefault? listOf? free? freeObject? numeric?)

theorem orError_ok_iff {ε α : Type} {e : ε} {x : Option α} {a : α} :
    orError e x = .ok a ↔ x = some a := by
  cases x <;> simp [orError]

variable {R : Type} [Scalar R]

/-! ## The encodings of a document in one list -/

namespace ChartDocument

omit [Scalar R]

/-- The definition of an encoding with the name of its channel added. -/
def withChannel (name : String) (j : Json R) : Json R := j.put "channel" (.string name)

/-- The encodings that a document lists. -/
def listed (doc : Json R) : List (Json R) := ((doc.get? "encodings").bind Json.items?).getD []

/-- The encodings that a document gives by channel, in the order of names, with their channels. -/
def mapped (doc : Json R) : List (Json R) :=
  (((doc.get? "encoding").bind Json.members?).getD []).flatMap fun m ↦
    (Json.definitions m.2).map (withChannel m.1)

/-- The columns and rows of the grid of a document, with their channels. -/
def gridded (doc : Json R) : List (Json R) :=
  ["column", "row"].filterMap fun name ↦
    ((doc.get? "facet").bind (·.get? name)).map (withChannel name)

/-- All encodings of a document, with their channels. -/
def allEncodings (doc : Json R) : List (Json R) := listed doc ++ mapped doc ++ gridded doc

/-- The grid of a document without its columns and rows. -/
def bareGrid? (doc : Json R) : Option (Json R) :=
  (doc.get? "facet").map fun grid ↦ (grid.without "column").without "row"

/-- The document with all its encodings in one list. -/
def flattened (doc : Json R) : Json R :=
  let doc' := (doc.without "encoding").put "encodings" (.array (allEncodings doc))
  match bareGrid? doc with
  | some grid => doc'.put "facet" grid
  | none => doc'

/-- The encodings of a document can be put in one list: they are written in the way of each of the
three places, and leave their channels open where the place tells it. -/
structure IsFlattenable (doc : Json R) : Prop where
  /-- The document is an object. -/
  isObject : doc.IsObject
  /-- Encodings are listed in an array. -/
  listed : ∀ j, doc.get? "encodings" = some j → ∃ items, j = .array items
  /-- The encodings by channel are definitions that leave the channel open. -/
  mapped : ∀ j, doc.get? "encoding" = some j → ∃ members, j = .object members ∧
    ∀ m ∈ members, ∀ k ∈ Json.definitions m.2, k.Lacks "channel"
  /-- Columns and rows are definitions that leave the channel open. -/
  gridded : ∀ j, doc.get? "facet" = some j → ∃ members, j = .object members ∧
    ∀ name ∈ ["column", "row"], ∀ k, members.lookup name = some k → k.Lacks "channel"

end ChartDocument

/-! ## Bindings -/

namespace EncodingDef

omit [Scalar R] in
/-- A definition to which a channel is added is read as before, with that channel. -/
theorem ofDraft?_put_channel {members : List (String × Json R)}
    (hnames : members.Pairwise (·.1 < ·.1)) (hchannel : members.lookup "channel" = none)
    (name : String) :
    ofDraft? (Json.object (Json.insertMember "channel" (.string name) members)).draft =
      (ofDraft? (Json.object members).draft).map fun d ↦ { d with channel := some name } := by
  rw [ofDraft?, ofDraft?, Json.fields?_draft hnames,
    Json.fields?_draft (Json.pairwise_insertMember hnames)]
  simp [Json.lookup_insertMember, hchannel, optional?, Json.draft, Json.string?]

/-- The binding of a definition in a list. -/
def listedBindingOfJson (j : Json R) : Except DocumentError (Binding R) := do
  let d ← orError .json (EncodingDef.ofDraft? j.draft)
  d.toListedBinding

theorem listedBindingOfJson_withChannel {j : Json R} (hj : j.IsSorted) (hopen : j.Lacks "channel")
    (name : String) :
    listedBindingOfJson (ChartDocument.withChannel name j) = bindingOfJson name j := by
  obtain ⟨members, rfl, hchannel⟩ := hopen
  rw [listedBindingOfJson, bindingOfJson, ChartDocument.withChannel, Json.put,
    ofDraft?_put_channel hj.names hchannel]
  cases ofDraft? (Json.object members).draft <;> rfl

/-- Definitions that can all be read are bound one by one. -/
theorem mapM_listedBindingOfJson_ok_iff {js : List (Json R)} {bs : List (Binding R)} :
    js.mapM listedBindingOfJson = .ok bs ↔
      ∃ ds, (js.map Json.draft).mapM EncodingDef.ofDraft? = some ds ∧
        ds.mapM toListedBinding = .ok bs := by
  induction js generalizing bs with
  | nil => simp
  | cons j js ih =>
      rw [List.mapM_cons, List.map_cons, List.mapM_cons, listedBindingOfJson]
      cases hd : EncodingDef.ofDraft? j.draft with
      | none => simp [orError, bind, Except.bind]
      | some d =>
          simp only [orError, bind_ok_iff, Except.ok.injEq, exists_eq_left', ih,
            Option.bind_eq_bind, Option.bind_eq_some_iff, Option.some.injEq]
          constructor
          · rintro ⟨b, hb, bs, ⟨ds, hds, hbs⟩, h⟩
            cases h
            exact ⟨d :: ds, ⟨ds, hds, rfl⟩, by rw [List.mapM_cons, hb, hbs]; rfl⟩
          · rintro ⟨_, ⟨ds, hds, ⟨⟩⟩, h⟩
            rw [List.mapM_cons, bind_ok_iff] at h
            obtain ⟨b, hb, h⟩ := h
            obtain ⟨bs, hbs, h⟩ := bind_ok_iff.mp h
            exact ⟨b, hb, bs, ⟨ds, hds, hbs⟩, h⟩

/-- The definitions that are written for one channel are bound as if they were listed. -/
theorem bindingsOfJson_eq {j : Json R} (hj : j.IsSorted)
    (hopen : ∀ k ∈ Json.definitions j, k.Lacks "channel") (name : String) :
    bindingsOfJson name j =
      ((Json.definitions j).map (ChartDocument.withChannel name)).mapM listedBindingOfJson := by
  have hbind : ∀ js : List (Json R), (∀ k ∈ js, k.IsSorted) → (∀ k ∈ js, k.Lacks "channel") →
      js.mapM (bindingOfJson name) =
        (js.map (ChartDocument.withChannel name)).mapM listedBindingOfJson := by
    intro js hsorted hopen
    induction js with
    | nil => rfl
    | cons k js ih =>
        obtain ⟨hk, hsorted⟩ := List.forall_mem_cons.mp hsorted
        obtain ⟨hkopen, hopen⟩ := List.forall_mem_cons.mp hopen
        rw [List.map_cons, List.mapM_cons, List.mapM_cons,
          listedBindingOfJson_withChannel hk hkopen, ih hsorted hopen]
  cases j with
  | array items => exact hbind items hj.items hopen
  | object members =>
      refine Eq.trans ?_ (hbind [Json.object members] (by simpa using hj) hopen)
      rw [List.mapM_cons]
      change (bindingOfJson name (Json.object members)).map ([·]) = _
      cases bindingOfJson name (Json.object members) <;> rfl
  | _ =>
      obtain ⟨members, h, -⟩ := hopen _ (List.mem_singleton_self _)
      cases h

theorem bindingsOfMembers_eq {members : List (String × Json R)}
    (hsorted : ∀ m ∈ members, m.2.IsSorted)
    (hopen : ∀ m ∈ members, ∀ k ∈ Json.definitions m.2, k.Lacks "channel") :
    bindingsOfMembers members =
      (members.flatMap fun m ↦ (Json.definitions m.2).map
        (ChartDocument.withChannel m.1)).mapM listedBindingOfJson := by
  induction members with
  | nil => rfl
  | cons m members ih =>
      obtain ⟨hm, hsorted⟩ := List.forall_mem_cons.mp hsorted
      obtain ⟨hmopen, hopen⟩ := List.forall_mem_cons.mp hopen
      rw [List.flatMap_cons, List.mapM_append, ← bindingsOfJson_eq hm hmopen, ← ih hsorted hopen,
        bindingsOfMembers, bindingsOfMembers, List.mapM_cons]
      obtain ⟨name, j⟩ := m
      dsimp only
      cases bindingsOfJson name j with
      | error e => rfl
      | ok bs => cases members.mapM fun m ↦ bindingsOfJson m.1 m.2 <;> rfl

/-- A column or a row is bound as if it were listed. -/
theorem mapM_place_ok_iff {k? : Option (Json R)} (hsorted : ∀ k, k? = some k → k.IsSorted)
    (hopen : ∀ k, k? = some k → k.Lacks "channel") (name : String) (bs : List (Binding R)) :
    (k?.map (ChartDocument.withChannel name)).toList.mapM listedBindingOfJson = .ok bs ↔
      ∃ d b, optional? EncodingDef.ofDraft? (k?.map Json.draft) = some d ∧
        optionally (EncodingDef.toBinding · name) d = .ok b ∧ bs = b.toList := by
  cases k? with
  | none =>
      constructor
      · intro h
        cases h
        exact ⟨none, none, rfl, rfl, rfl⟩
      · rintro ⟨d, b, ⟨⟩, ⟨⟩, rfl⟩
        rfl
  | some k =>
      obtain ⟨members, rfl, hchannel⟩ := hopen k rfl
      rw [Option.map_some, Option.toList_some, List.mapM_cons,
        listedBindingOfJson_withChannel (hsorted _ rfl) ⟨members, rfl, hchannel⟩, bindingOfJson]
      change _ ↔ ∃ d b, (EncodingDef.ofDraft? (Json.object members).draft).map some = some d ∧ _
      cases EncodingDef.ofDraft? (Json.object members).draft with
      | none => simp [orError, bind, Except.bind]
      | some d =>
          simp only [orError, Option.map_some, Option.some.injEq, exists_and_left, exists_eq_left',
            optionally, map_ok_iff, List.mapM_nil, bind_ok_iff, pure, Except.pure, Except.ok.injEq]
          constructor
          · rintro ⟨b, hb, rfl⟩
            exact ⟨_, ⟨b, hb, rfl⟩, rfl⟩
          · rintro ⟨_, ⟨b, hb, rfl⟩, rfl⟩
            exact ⟨b, hb, rfl⟩

end EncodingDef

/-! ## Grids and charts -/

namespace FacetDef

/-- A grid is read as it is written, apart from its columns and rows. -/
structure Reads (members : List (String × Json R)) (spec : FacetSpec R) : Prop where
  independentScales : withDefault? false Json.bool?
    ((members.lookup "independentScales").map Json.draft) = some spec.independentScales
  cellWidth : optional? numeric? ((members.lookup "cellWidth").map Json.draft) = some spec.cellWidth
  cellHeight :
    optional? numeric? ((members.lookup "cellHeight").map Json.draft) = some spec.cellHeight

theorem Reads.congr {members members' : List (String × Json R)} {spec : FacetSpec R}
    (hspec : Reads members spec)
    (h : ∀ name ∈ ["independentScales", "cellWidth", "cellHeight"],
      members.lookup name = members'.lookup name) : Reads members' spec := by
  obtain ⟨hindependent, hwidth, hheight⟩ := hspec
  rw [h _ (by decide)] at hindependent hwidth hheight
  exact ⟨hindependent, hwidth, hheight⟩

theorem ofDraft?_eq_some_iff {members : List (String × Json R)}
    (hnames : members.Pairwise (·.1 < ·.1)) {d : FacetDef R} :
    ofDraft? (Json.object members).draft = some d ↔
      optional? EncodingDef.ofDraft? ((members.lookup "column").map Json.draft) = some d.column ∧
      optional? EncodingDef.ofDraft? ((members.lookup "row").map Json.draft) = some d.row ∧
      Reads members d.toSpec := by
  rw [ofDraft?, Json.fields?_draft hnames]
  simp only [Option.bind_eq_bind, Option.bind_some, Option.bind_eq_some_iff, Option.some.injEq]
  constructor
  · rintro ⟨column, hcolumn, row, hrow, independent, hindependent, width, hwidth, height, hheight,
      rfl⟩
    exact ⟨hcolumn, hrow, hindependent, hwidth, hheight⟩
  · rintro ⟨hcolumn, hrow, h⟩
    exact ⟨_, hcolumn, _, hrow, _, h.independentScales, _, h.cellWidth, _, h.cellHeight, rfl⟩

end FacetDef

/-- The grid of a document is read as it is written, apart from its columns and rows. -/
def ChartDocument.ReadsGrid (doc : Json R) (spec : FacetSpec R) : Prop :=
  match doc.get? "facet" with
  | some (.object members) => FacetDef.Reads members spec
  | _ => spec = .standard

namespace ChartDef

/-- A chart is read as it is written, apart from its encodings and its grid. -/
structure ReadsPlain (members : List (String × Json R)) (d : ChartDef R) : Prop where
  data : optional? recordsOfDraft? ((members.lookup "data").map Json.draft) = some d.data
  mark : ((members.lookup "mark").map Json.draft).bind MarkDef.ofDraft? = some d.mark
  width : optional? numeric? ((members.lookup "width").map Json.draft) = some d.width
  height : optional? numeric? ((members.lookup "height").map Json.draft) = some d.height
  params : withDefault? [] (listOf? ParamDef.ofDraft?)
    ((members.lookup "params").map Json.draft) = some d.params
  filters : withDefault? [] (listOf? filterOfDraft?)
    ((members.lookup "transform").map Json.draft) = some d.filters

theorem ReadsPlain.congr {members members' : List (String × Json R)} {d : ChartDef R}
    (hd : ReadsPlain members d)
    (h : ∀ name ∈ ["data", "mark", "width", "height", "params", "transform"],
      members.lookup name = members'.lookup name) : ReadsPlain members' d := by
  obtain ⟨hdata, hmark, hwidth, hheight, hparams, hfilters⟩ := hd
  rw [h _ (by decide)] at hdata hmark hwidth hheight hparams hfilters
  exact ⟨hdata, hmark, hwidth, hheight, hparams, hfilters⟩

/-- The encodings and the grid of a chart are read as they are written. -/
structure ReadsEncodings (members : List (String × Json R)) (d : ChartDef R) : Prop where
  encodings : withDefault? [] (listOf? EncodingDef.ofDraft?)
    ((members.lookup "encodings").map Json.draft) = some d.encodings
  encoding : optional? freeObject? ((members.lookup "encoding").map Json.draft) = some d.encoding
  facet : optional? FacetDef.ofDraft? ((members.lookup "facet").map Json.draft) = some d.facet

theorem ofDraft?_eq_some_iff {members : List (String × Json R)}
    (hnames : members.Pairwise (·.1 < ·.1)) {d : ChartDef R} :
    ofDraft? (Json.object members).draft = some d ↔
      ReadsPlain members d ∧ ReadsEncodings members d := by
  rw [ofDraft?, Json.fields?_draft hnames]
  simp only [Json.draft, isLongEnough, guard_true, pure_bind, Option.bind_eq_bind,
    Option.bind_some, Option.bind_eq_some_iff, Option.some.injEq]
  constructor
  · rintro ⟨data, hdata, mark, hmark, encodings, hencodings, encoding, hencoding, width, hwidth,
      height, hheight, facet, hfacet, params, hparams, filters, hfilters, rfl⟩
    exact ⟨⟨hdata, Option.bind_eq_some_iff.mpr hmark, hwidth, hheight, hparams, hfilters⟩,
      hencodings, hencoding, hfacet⟩
  · rintro ⟨h, h'⟩
    exact ⟨_, h.data, _, Option.bind_eq_some_iff.mp h.mark, _, h'.encodings, _, h'.encoding, _,
      h.width, _, h.height, _, h'.facet, _, h.params, _, h.filters, rfl⟩

/-- A chart means what is written, apart from its encodings and its grid. -/
structure MeansPlain (d : ChartDef R) (doc : ChartDocument R) : Prop where
  data : d.toDataset = .ok doc.data
  mark : d.mark.toMark = .ok doc.spec.view.mark
  width : doc.spec.view.width = d.width
  height : doc.spec.view.height = d.height
  params : d.params.mapM ParamDef.toSpec = .ok doc.spec.params
  filters : d.filters.mapM Filter.ofJson = .ok doc.spec.filters

theorem toDocument_ok_iff {d : ChartDef R} {doc : ChartDocument R} :
    d.toDocument = .ok doc ↔ MeansPlain d doc ∧ d.toBindings = .ok doc.spec.view.encodings ∧
      doc.spec.facet = (d.facet.map FacetDef.toSpec).getD .standard := by
  rw [toDocument]
  simp only [bind_ok_iff, Except.ok.injEq]
  constructor
  · rintro ⟨data, hdata, mark, hmark, bindings, hbindings, params, hparams, filters, hfilters, rfl⟩
    exact ⟨⟨hdata, hmark, rfl, rfl, hparams, hfilters⟩, hbindings, rfl⟩
  · rintro ⟨h, hbindings, hfacet⟩
    refine ⟨_, h.data, _, h.mark, _, hbindings, _, h.params, _, h.filters, ?_⟩
    rw [← h.width, ← h.height, ← hfacet]

end ChartDef

/-! ## The three places -/

namespace ChartDocument

section Parts

variable {members : List (String × Json R)} (hdoc : (Json.object members).IsSorted)
  (hflat : IsFlattenable (Json.object members))

include hflat

/-- The listed encodings of a document are bound as they are. -/
theorem listed_ok_iff {bs : List (Binding R)} :
    (∃ ds, withDefault? [] (listOf? EncodingDef.ofDraft?)
        ((members.lookup "encodings").map Json.draft) = some ds ∧
      ds.mapM EncodingDef.toListedBinding = .ok bs) ↔
      (listed (Json.object members)).mapM EncodingDef.listedBindingOfJson = .ok bs := by
  rw [EncodingDef.mapM_listedBindingOfJson_ok_iff, listed, Json.get?_object]
  cases h : members.lookup "encodings" with
  | none => simp [withDefault?, eq_comm]
  | some j =>
      obtain ⟨items, rfl⟩ := hflat.listed j h
      rw [Option.map_some, Json.draft, Json.draftItems_eq]
      rfl

include hdoc

/-- The encodings that a document gives by channel are bound as if they were listed. -/
theorem mapped_ok_iff {bs : List (Binding R)} :
    (∃ encoding, optional? freeObject? ((members.lookup "encoding").map Json.draft) =
        some encoding ∧ EncodingDef.bindingsOfMembers (encoding.getD []) = .ok bs) ↔
      (mapped (Json.object members)).mapM EncodingDef.listedBindingOfJson = .ok bs := by
  rw [mapped, Json.get?_object]
  cases h : members.lookup "encoding" with
  | none => simp [optional?, EncodingDef.bindingsOfMembers, pure, Except.pure, bind, Except.bind]
  | some j =>
      obtain ⟨encoding, rfl, hopen⟩ := hflat.mapped j h
      have hsorted : (Json.object encoding).IsSorted := hdoc.get? h
      have hread : optional? freeObject? ((some (Json.object encoding)).map Json.draft) =
          some (some encoding) := by
        change (freeObject? (Json.object encoding).draft).map some = _
        rw [freeObject?, hsorted.free?_draft]
        rfl
      simp only [hread, Option.some.injEq, exists_eq_left', Option.getD_some, Option.bind_some]
      rw [EncodingDef.bindingsOfMembers_eq hsorted.values hopen]
      rfl

/-- The columns and rows of the grid of a document are bound as if they were listed. -/
theorem gridded_ok_iff {bs : List (Binding R)} {spec : FacetSpec R} :
    (∃ facet b, optional? FacetDef.ofDraft? ((members.lookup "facet").map Json.draft) =
        some facet ∧ optionally FacetDef.toBindings facet = .ok b ∧ bs = b.getD [] ∧
      spec = (facet.map FacetDef.toSpec).getD .standard) ↔
      (gridded (Json.object members)).mapM EncodingDef.listedBindingOfJson = .ok bs ∧
        ReadsGrid (Json.object members) spec := by
  rw [gridded, ReadsGrid, Json.get?_object]
  cases h : members.lookup "facet" with
  | none =>
      constructor
      · rintro ⟨_, _, ⟨⟩, ⟨⟩, rfl, rfl⟩
        exact ⟨rfl, rfl⟩
      · rintro ⟨⟨⟩, rfl⟩
        exact ⟨none, none, rfl, rfl, rfl, rfl⟩
  | some j =>
      obtain ⟨grid, rfl, hopen⟩ := hflat.gridded j h
      have hsorted : (Json.object grid).IsSorted := hdoc.get? h
      have hplaces : ["column", "row"].filterMap (fun name ↦
          ((some (Json.object grid)).bind (·.get? name)).map (withChannel name)) =
            ((grid.lookup "column").map (withChannel "column")).toList ++
              ((grid.lookup "row").map (withChannel "row")).toList := by
        rw [List.filterMap_cons, List.filterMap_cons, List.filterMap_nil]
        simp only [Option.bind_some, Json.get?_object]
        cases grid.lookup "column" <;> cases grid.lookup "row" <;> rfl
      have hcolumn := EncodingDef.mapM_place_ok_iff (fun k hk ↦ hsorted.get? hk)
        (hopen "column" (by simp)) "column"
      have hrow := EncodingDef.mapM_place_ok_iff (fun k hk ↦ hsorted.get? hk)
        (hopen "row" (by simp)) "row"
      rw [hplaces, mapM_append_ok_iff]
      constructor
      · rintro ⟨facet, b, hfacet, hb, rfl, rfl⟩
        obtain ⟨d, hd, rfl⟩ := Option.map_eq_some_iff.mp hfacet
        obtain ⟨bs, hbs, rfl⟩ := map_ok_iff.mp hb
        obtain ⟨hd, hd', hreads⟩ := (FacetDef.ofDraft?_eq_some_iff hsorted.names).mp hd
        obtain ⟨c, hc, hbs⟩ := bind_ok_iff.mp hbs
        obtain ⟨r, hr, hbs⟩ := bind_ok_iff.mp hbs
        exact ⟨⟨_, _, (hcolumn _).mpr ⟨_, _, hd, hc, rfl⟩, (hrow _).mpr ⟨_, _, hd', hr, rfl⟩,
          (Except.ok.inj hbs).symm⟩, hreads⟩
      · rintro ⟨⟨_, _, hcolumns, hrows, rfl⟩, hreads⟩
        obtain ⟨d, c, hd, hc, rfl⟩ := (hcolumn _).mp hcolumns
        obtain ⟨d', r, hd', hr, rfl⟩ := (hrow _).mp hrows
        obtain ⟨independent, width, height⟩ := spec
        let def' : FacetDef R := ⟨d, d', independent, width, height⟩
        refine ⟨some def', some (c.toList ++ r.toList), ?_, ?_, rfl, rfl⟩
        · exact Option.map_eq_some_iff.mpr
            ⟨def', (FacetDef.ofDraft?_eq_some_iff hsorted.names).mpr ⟨hd, hd', hreads⟩, rfl⟩
        · exact map_ok_iff.mpr ⟨_, bind_ok_iff.mpr ⟨c, hc, bind_ok_iff.mpr ⟨r, hr, rfl⟩⟩, rfl⟩

end Parts

/-- What a document means: its encodings are bound as if they were all listed. -/
theorem ofDraft_ok_iff {members : List (String × Json R)} (hdoc : (Json.object members).IsSorted)
    (hflat : IsFlattenable (Json.object members)) {doc : ChartDocument R} :
    ofDraft (Json.object members).draft = .ok doc ↔
      (∃ d, ChartDef.ReadsPlain members d ∧ d.MeansPlain doc) ∧
        (allEncodings (Json.object members)).mapM EncodingDef.listedBindingOfJson =
          .ok doc.spec.view.encodings ∧
        ReadsGrid (Json.object members) doc.spec.facet := by
  rw [ofDraft, bind_ok_iff, allEncodings, mapM_append_ok_iff]
  simp only [orError_ok_iff, ChartDef.ofDraft?_eq_some_iff hdoc.names, ChartDef.toDocument_ok_iff]
  constructor
  · rintro ⟨d, ⟨hplain, hread⟩, hmeans, hbindings, hfacet⟩
    obtain ⟨bs, hlisted, hbindings⟩ := bind_ok_iff.mp hbindings
    obtain ⟨bs', hmapped, hbindings⟩ := bind_ok_iff.mp hbindings
    obtain ⟨b, hgridded, hbindings⟩ := bind_ok_iff.mp hbindings
    have hlisted := (listed_ok_iff hflat).mp ⟨_, hread.encodings, hlisted⟩
    have hmapped := (mapped_ok_iff hdoc hflat).mp ⟨_, hread.encoding, hmapped⟩
    have hgridded := (gridded_ok_iff hdoc hflat).mp ⟨_, _, hread.facet, hgridded, rfl, hfacet⟩
    exact ⟨⟨d, hplain, hmeans⟩, ⟨_, _, mapM_append_ok_iff.mpr ⟨_, _, hlisted, hmapped, rfl⟩,
      hgridded.1, (Except.ok.inj hbindings).symm⟩, hgridded.2⟩
  · rintro ⟨⟨d, hplain, hmeans⟩, ⟨_, bs, h, hgridded, hall⟩, hgrid⟩
    obtain ⟨bs, bs', hlisted, hmapped, rfl⟩ := mapM_append_ok_iff.mp h
    obtain ⟨encodings, hencodings, hlisted⟩ := (listed_ok_iff hflat).mpr hlisted
    obtain ⟨encoding, hencoding, hmapped⟩ := (mapped_ok_iff hdoc hflat).mpr hmapped
    obtain ⟨facet, b, hfacet, hplaces, rfl, hspec⟩ :=
      (gridded_ok_iff hdoc hflat).mpr ⟨hgridded, hgrid⟩
    refine ⟨{ d with encodings := encodings, encoding := encoding, facet := facet },
      ⟨?_, hencodings, hencoding, hfacet⟩, ?_, ?_, hspec⟩
    · exact ⟨hplain.data, hplain.mark, hplain.width, hplain.height, hplain.params, hplain.filters⟩
    · exact ⟨hmeans.data, hmeans.mark, hmeans.width, hmeans.height, hmeans.params, hmeans.filters⟩
    · exact bind_ok_iff.mpr ⟨_, hlisted, bind_ok_iff.mpr ⟨_, hmapped, bind_ok_iff.mpr
        ⟨_, hplaces, congrArg _ hall.symm⟩⟩⟩

/-! ## The document with one list -/

section Flattened

omit [Scalar R]

variable {doc : Json R}

private theorem mem_getD_nil {α : Type} {o : Option (List α)} {x : α} :
    x ∈ o.getD [] ↔ ∃ xs, o = some xs ∧ x ∈ xs := by
  cases o <;> simp

theorem isSorted_allEncodings (hdoc : doc.IsSorted) : ∀ j ∈ allEncodings doc, j.IsSorted := by
  intro j hj
  rw [allEncodings, List.mem_append, List.mem_append] at hj
  rcases hj with (hj | hj) | hj
  · obtain ⟨items, hitems, hj⟩ := mem_getD_nil.mp hj
    obtain ⟨k, hk, hitems⟩ := Option.bind_eq_some_iff.mp hitems
    cases k with
    | array _ =>
        obtain rfl := Option.some.inj hitems
        exact (hdoc.get? hk).items j hj
    | _ => cases hitems
  · obtain ⟨m, hm, hj⟩ := List.mem_flatMap.mp hj
    obtain ⟨members, hmembers, hm⟩ := mem_getD_nil.mp hm
    obtain ⟨k, hk, hmembers⟩ := Option.bind_eq_some_iff.mp hmembers
    obtain ⟨definition, hdefinition, rfl⟩ := List.mem_map.mp hj
    cases k with
    | object _ =>
        obtain rfl := Option.some.inj hmembers
        have hm := (hdoc.get? hk).values m hm
        exact (hm.definitions definition hdefinition).put (.string m.1) _
    | _ => cases hmembers
  · obtain ⟨name, -, hj⟩ := List.mem_filterMap.mp hj
    obtain ⟨k, hk, rfl⟩ := Option.map_eq_some_iff.mp hj
    obtain ⟨grid, hgrid, hk⟩ := Option.bind_eq_some_iff.mp hk
    exact ((hdoc.get? hgrid).get? hk).put (.string name) _

theorem isSorted_flattened (hdoc : doc.IsSorted) : (flattened doc).IsSorted := by
  have hlist := (hdoc.without "encoding").put (.array (isSorted_allEncodings hdoc)) "encodings"
  rw [flattened]
  cases h : bareGrid? doc with
  | none => exact hlist
  | some grid =>
      obtain ⟨facet, hfacet, rfl⟩ := Option.map_eq_some_iff.mp h
      exact hlist.put (((hdoc.get? hfacet).without _).without _) _

/-- What the document with one list has under each name. -/
theorem get?_flattened (hdoc : doc.IsObject) (name : String) :
    (flattened doc).get? name =
      if name = "encodings" then some (.array (allEncodings doc))
      else if name = "encoding" then none
      else if name = "facet" then bareGrid? doc
      else doc.get? name := by
  have hrest := hdoc.without "encoding"
  have hlist := hrest.put "encodings" (.array (allEncodings doc))
  rw [flattened]
  cases hgrid : bareGrid? doc with
  | none =>
      have hfacet : doc.get? "facet" = none := Option.map_eq_none_iff.mp hgrid
      rw [hrest.get?_put, hdoc.get?_without]
      grind
  | some grid =>
      rw [hlist.get?_put, hrest.get?_put, hdoc.get?_without]
      grind

theorem isObject_flattened (hdoc : doc.IsObject) : (flattened doc).IsObject := by
  rw [flattened]
  cases bareGrid? doc with
  | none => exact (hdoc.without _).put _ _
  | some grid => exact ((hdoc.without _).put _ _).put _ _

/-- What the grid without its columns and rows has under each name. -/
theorem get?_bareGrid {grid : Json R} (hgrid : grid.IsObject) (name : String) :
    ((grid.without "column").without "row").get? name =
      if name ∈ ["column", "row"] then none else grid.get? name := by
  rw [(hgrid.without "column").get?_without, hgrid.get?_without]
  grind

theorem isFlattenable_flattened (hflat : IsFlattenable doc) : IsFlattenable (flattened doc) := by
  have hdoc := hflat.isObject
  refine ⟨isObject_flattened hdoc, fun j hj ↦ ?_, fun j hj ↦ ?_, fun j hj ↦ ?_⟩
  · cases (get?_flattened hdoc _).symm.trans hj
    exact ⟨_, rfl⟩
  · cases (get?_flattened hdoc _).symm.trans hj
  · obtain ⟨grid, hgrid, rfl⟩ := Option.map_eq_some_iff.mp ((get?_flattened hdoc _).symm.trans hj)
    obtain ⟨members, rfl, -⟩ := hflat.gridded grid hgrid
    refine ⟨_, rfl, fun name hname k hk ↦ ?_⟩
    have hnone := get?_bareGrid ⟨members, rfl⟩ name
    rw [if_pos hname] at hnone
    cases hnone.symm.trans hk

/-- The document with one list has the encodings of the document. -/
theorem allEncodings_flattened (hflat : IsFlattenable doc) :
    allEncodings (flattened doc) = allEncodings doc := by
  have hdoc := hflat.isObject
  have hlisted : listed (flattened doc) = allEncodings doc := by
    rw [listed, get?_flattened hdoc]
    rfl
  have hmapped : mapped (flattened doc) = [] := by
    rw [mapped, get?_flattened hdoc]
    rfl
  have hgridded : gridded (flattened doc) = [] := by
    refine List.filterMap_eq_nil_iff.mpr fun name hname ↦ ?_
    rw [Option.map_eq_none_iff, Option.bind_eq_none_iff, get?_flattened hdoc]
    intro bare hbare
    obtain ⟨grid, hgrid, rfl⟩ := Option.map_eq_some_iff.mp hbare
    obtain ⟨members, rfl, -⟩ := hflat.gridded grid hgrid
    rw [get?_bareGrid ⟨members, rfl⟩, if_pos hname]
  rw [allEncodings, hlisted, hmapped, hgridded, List.append_nil, List.append_nil]

end Flattened

/-- The document with one list has the grid of the document, apart from columns and rows. -/
theorem readsGrid_flattened {doc : Json R} (hflat : IsFlattenable doc) (spec : FacetSpec R) :
    ReadsGrid (flattened doc) spec ↔ ReadsGrid doc spec := by
  have hdoc := hflat.isObject
  have hfacet : (flattened doc).get? "facet" = bareGrid? doc := get?_flattened hdoc _
  rw [ReadsGrid, ReadsGrid, hfacet, bareGrid?]
  cases h : doc.get? "facet" with
  | none => rfl
  | some grid =>
      obtain ⟨members, rfl, -⟩ := hflat.gridded grid h
      have hget : ∀ name ∈ ["independentScales", "cellWidth", "cellHeight"],
          ((members.filter (·.1 ≠ "column")).filter (·.1 ≠ "row")).lookup name =
            members.lookup name := by
        intro name hname
        refine (get?_bareGrid ⟨members, rfl⟩ name).trans (if_neg ?_)
        revert name
        decide
      exact ⟨fun hreads ↦ hreads.congr hget,
        fun hreads ↦ hreads.congr fun name h ↦ (hget name h).symm⟩

/-- A document means the same as the document with all its encodings in one list. -/
theorem ofJson_flattened {doc : Json R} (hflat : IsFlattenable doc.canonical)
    (chart : ChartDocument R) :
    ofJson doc = .ok chart ↔ ofJson (flattened doc.canonical) = .ok chart := by
  have hsorted := Json.isSorted_canonical doc
  have hsorted' := isSorted_flattened hsorted
  have hflat' := isFlattenable_flattened hflat
  have hget := get?_flattened hflat.isObject
  have hall := allEncodings_flattened hflat
  have hgrid := readsGrid_flattened hflat chart.spec.facet
  rw [ofJson, ofJson, hsorted'.canonical_eq]
  obtain ⟨members', hmembers'⟩ := hflat'.isObject
  obtain ⟨members, hmembers⟩ := hflat.isObject
  rw [hmembers'] at hsorted' hflat' hget hall hgrid ⊢
  rw [hmembers] at hsorted hflat hget hall hgrid ⊢
  have hplain : ∀ name ∈ ["data", "mark", "width", "height", "params", "transform"],
      members'.lookup name = members.lookup name := by
    intro name hname
    have hne : name ≠ "encodings" ∧ name ≠ "encoding" ∧ name ≠ "facet" := by
      revert name
      decide
    exact (hget name).trans (by rw [if_neg hne.1, if_neg hne.2.1, if_neg hne.2.2]; rfl)
  rw [ofDraft_ok_iff hsorted hflat, ofDraft_ok_iff hsorted' hflat', hall, hgrid]
  refine and_congr_left fun _ ↦ exists_congr fun d ↦ and_congr_left fun _ ↦
    ⟨fun hd ↦ ?_, fun hd ↦ ?_⟩
  · exact hd.congr fun name hname ↦ (hplain name hname).symm
  · exact hd.congr hplain

/-! ### Ferries

The departures of ferries day by day, with one plot for each port. -/

/-- The columns of the plots. -/
def ferryPort : Json Rat := .object [("field", .string "port")]

/-- What is shown of a departure on hovering. -/
def ferryTips : Json Rat :=
  .array [.object [("field", .string "ship")], .object [("field", .string "day")]]

/-- A chart of departures, with encodings in all three places. -/
def ferries : Json Rat :=
  .object
    [("encoding", .object
        [("tooltip", ferryTips), ("y", .object [("aggregate", .string "count")])]),
      ("encodings", .array [.object [("channel", .string "x"), ("field", .string "day")]]),
      ("facet", .object [("column", ferryPort), ("independentScales", .bool true)]),
      ("mark", .string "bar")]

/-- The departures can be written with one list of encodings. -/
theorem ofJson_flattened_ferries :
    IsFlattenable ferries.canonical ∧ ∃ chart, ofJson ferries = .ok chart ∧
      ofJson (flattened ferries.canonical) = .ok chart ∧
      chart.spec.view.encodings.map Binding.channel = [.x, .tooltip, .tooltip, .y, .column] := by
  have hflat : IsFlattenable ferries.canonical := by
    rw [show ferries.canonical = ferries by rfl]
    refine ⟨⟨_, rfl⟩, fun j hj ↦ ?_, fun j hj ↦ ?_, fun j hj ↦ ?_⟩
    · cases hj
      exact ⟨_, rfl⟩
    · cases hj
      refine ⟨_, rfl, ?_⟩
      simp [Json.definitions, ferryTips, Json.Lacks]
    · cases hj
      refine ⟨_, rfl, ?_⟩
      simp [ferryPort, Json.Lacks, List.lookup_cons]
  have hread : (ofJson ferries).toOption.map (·.spec.view.encodings.map Binding.channel) =
      some [.x, .tooltip, .tooltip, .y, .column] := by
    decide +kernel
  obtain ⟨chart, hchart, hchannels⟩ := exists_ok_of_map_eq_some hread
  exact ⟨hflat, chart, hchart, (ofJson_flattened hflat chart).mp hchart, hchannels⟩

end ChartDocument

end Charting
