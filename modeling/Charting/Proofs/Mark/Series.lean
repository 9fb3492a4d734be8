import Charting.Numeric.Exact
import Charting.Proofs.Mark.Drawing

/-!
# Lines and areas

Lines and areas are drawn of all rows that agree in every discrete field of a few channels
(`Drawing.seriesKey_eq_iff`).  Rows that have no place are skipped, and so a series may start with
rows that are not drawn, or have no mark at all.  What is drawn is told without groups
(`Drawing.marks_of_series`): there is one mark for each key of a row with a place, and its keys and
its points are those of the rows of the series that have one.
-/

namespace Charting

/-- Elements that have an image are related to the list of the images. -/
theorem forall₂_filter_filterMap {α β : Type} (g : α → Option β) (xs : List α) :
    List.Forall₂ (fun x y ↦ g x = some y) (xs.filter fun x ↦ (g x).isSome) (xs.filterMap g) := by
  induction xs with
  | nil => exact .nil
  | cons x xs ih =>
      cases hx : g x with
      | none =>
          rwa [List.filter_cons_of_neg (by simp [hx]), List.filterMap_cons_none hx]
      | some y =>
          rw [List.filter_cons_of_pos (by simp [hx]), List.filterMap_cons_some hx]
          exact .cons hx ih

namespace Drawing

variable {R : Type} [Scalar R] {d : Drawing R}

/-! ## Series -/

/-- Rows are in one series if they have the same values on all channels that tell series apart and
have discrete scales. -/
theorem seriesKey_eq_iff {row row' : Row R} : d.seriesKey row = d.seriesKey row' ↔
    ∀ c ∈ [Channel.color, .shape, .size, .opacity], ∀ s, d.encodings.scale? c = some s →
      s.isContinuous = false → ((d.encodings.value? c row).getD .null).key =
        ((d.encodings.value? c row').getD .null).key := by
  rw [seriesKey, seriesKey, List.map_inj_left]
  simp only [List.mem_filter, Option.any_eq_true, Bool.not_eq_true']
  constructor
  · exact fun h c hc s hs hdiscrete ↦ h c ⟨hc, s, hs, hdiscrete⟩
  · exact fun h c ⟨hc, s, hs, hdiscrete⟩ ↦ h c hc s hs hdiscrete

/-- A point is in the middle of the places of a row. -/
def IsVertex (d : Drawing R) (row : Row R) (p : Point R) : Prop :=
  ∃ x y, d.encodings.place? .x row = some x ∧ d.encodings.place? .y row = some y ∧
    p = ⟨x.center d.extent.width, y.center d.extent.height⟩

theorem isVertex_of_vertex? {row : Row R} {p : Point R} (h : d.vertex? row = some p) :
    d.IsVertex row p := by
  obtain ⟨x, hx, h⟩ := Option.bind_eq_some_iff.mp h
  obtain ⟨y, hy, h⟩ := Option.bind_eq_some_iff.mp h
  exact ⟨x, y, hx, hy, (Option.some.inj h).symm⟩

/-- The rows of a series that are drawn, in the order of drawing. -/
def seriesRows (d : Drawing R) (rows : List (Row R)) (key : List (Value R)) : List (Row R) :=
  (d.encodings.drawOrder rows).filter fun row ↦ d.seriesKey row = key ∧ d.isPlaced row

/-! ## The mark of a series -/

/-- A mark stands for some rows, and its line goes through their places one after another.  The
baseline of an area is level. -/
structure IsSeriesMark (d : Drawing R) (rows : List (Row R)) (m : Mark R) : Prop where
  /-- The keys are those of the rows. -/
  rows_eq : m.rows = rows.map Row.key
  /-- There is a point for each row. -/
  exists_points : ∃ points, List.Forall₂ d.IsVertex rows points ∧ m.rows.length = points.length ∧
    (d.mark.kind = .line → m.figure = .line points) ∧
    (d.mark.kind = .area → ∃ baseline, m.figure = .area points baseline ∧
      List.Forall₂ (fun p q ↦ q.x = p.x ∧ q.y = d.encodings.baseline .y d.extent.height)
        points baseline)

/-- The keys and the places of the rows that have one. -/
def vertices (d : Drawing R) (rows : List (Row R)) : List (Nat × Point R) :=
  rows.filterMap fun row ↦ (d.vertex? row).map fun p ↦ (row.key, p)

theorem forall₂_vertices (d : Drawing R) (rows : List (Row R)) :
    List.Forall₂ (fun row v ↦ v.1 = row.key ∧ d.IsVertex row v.2) (rows.filter d.isPlaced)
      (d.vertices rows) := by
  have h := forall₂_filter_filterMap
    (fun row ↦ (d.vertex? row).map fun p ↦ (row.key, p)) rows
  simp only [Option.isSome_map, isSome_vertex?_eq_isPlaced] at h
  refine h.imp fun row v hv ↦ ?_
  obtain ⟨p, hp, rfl⟩ := Option.map_eq_some_iff.mp hv
  exact ⟨rfl, isVertex_of_vertex? hp⟩

/-- Some row has a place if there are points. -/
theorem vertices_eq_nil_iff {rows : List (Row R)} :
    d.vertices rows = [] ↔ ∀ row ∈ rows, d.isPlaced row = false := by
  have hlength := (d.forall₂_vertices rows).length_eq
  rw [← List.length_eq_zero_iff, ← hlength, List.length_eq_zero_iff, List.filter_eq_nil_iff]
  simp only [Bool.not_eq_true]

/-- A series has a mark if one of its rows has a place. -/
theorem seriesMark?_eq (d : Drawing R) (rows : List (Row R)) :
    d.vertices rows = [] ∧ d.seriesMark? rows = none ∨
      d.vertices rows ≠ [] ∧ ∃ first, d.seriesMark? rows =
        some (d.paint first ((d.vertices rows).map (·.1))
          (d.seriesFigure ((d.vertices rows).map (·.2)))) := by
  unfold seriesMark?
  dsimp only
  split
  case h_1 first rest v vs hv =>
    have hvertices : d.vertices (first :: rest) = v :: vs := hv
    exact .inr ⟨by simp [hvertices], first, by rw [hvertices, ← hv]⟩
  case h_2 rows _ _ hnone =>
    refine .inl ⟨?_, rfl⟩
    cases rows with
    | nil => rfl
    | cons first rest =>
        by_contra hne
        obtain ⟨v, vs, hv⟩ := List.exists_cons_of_ne_nil hne
        exact hnone first rest v vs rfl hv

theorem isSome_seriesMark?_iff {rows : List (Row R)} :
    (d.seriesMark? rows).isSome = true ↔ ∃ row ∈ rows, d.isPlaced row := by
  have hplaced : d.vertices rows ≠ [] ↔ ∃ row ∈ rows, d.isPlaced row := by
    simp [vertices_eq_nil_iff]
  rw [← hplaced]
  rcases d.seriesMark?_eq rows with ⟨hnil, h⟩ | ⟨hne, first, h⟩
  · rw [h]
    exact iff_of_false Bool.false_ne_true (absurd hnil)
  · rw [h]
    exact iff_of_true rfl hne

theorem isSeriesMark_of_seriesMark? {rows : List (Row R)} {m : Mark R}
    (h : d.seriesMark? rows = some m) : d.IsSeriesMark (rows.filter d.isPlaced) m := by
  have hvertices := d.forall₂_vertices rows
  rcases d.seriesMark?_eq rows with ⟨-, hnone⟩ | ⟨-, first, hsome⟩
  · rw [hnone] at h
    cases h
  · rw [hsome] at h
    obtain rfl := Option.some.inj h
    refine ⟨?_, (d.vertices rows).map (·.2), ?_, ?_, fun hline ↦ ?_, fun harea ↦ ?_⟩
    · exact eq_map_of_forall₂ (List.forall₂_map_right_iff.mpr (hvertices.imp fun _ _ h ↦ h.1))
        fun row _ key hkey ↦ hkey
    · exact List.forall₂_map_right_iff.mpr (hvertices.imp fun _ _ h ↦ h.2)
    · rw [paint, List.length_map, List.length_map]
    · simp [paint, seriesFigure, hline]
    · refine ⟨_, by rw [paint, seriesFigure, if_pos harea], ?_⟩
      exact List.forall₂_map_right_iff.mpr (List.forall₂_same.mpr fun p _ ↦ ⟨rfl, rfl⟩)

/-! ## All marks -/

/-- The first rows of the series that are drawn. -/
def firstRows (d : Drawing R) (drawn : List (Row R)) : List (Row R) :=
  (distinctBy d.seriesKey drawn).filter fun row ↦
    (d.seriesMark? (peers d.seriesKey drawn row)).isSome

theorem mem_map_firstRows {drawn : List (Row R)} {key : List (Value R)} :
    key ∈ (d.firstRows drawn).map d.seriesKey ↔
      ∃ row ∈ drawn, d.seriesKey row = key ∧ d.isPlaced row := by
  simp only [firstRows, List.mem_map, List.mem_filter, isSome_seriesMark?_iff, peers,
    decide_eq_true_eq]
  constructor
  · rintro ⟨first, ⟨-, row, ⟨hrow, hkey⟩, hplaced⟩, rfl⟩
    exact ⟨row, hrow, hkey, hplaced⟩
  · rintro ⟨row, hrow, rfl, hplaced⟩
    obtain ⟨first, hfirst, hkey⟩ := List.mem_map.mp
      (mem_map_distinctBy.mpr (List.mem_map_of_mem (f := d.seriesKey) hrow))
    exact ⟨first, ⟨hfirst, row, ⟨hrow, hkey.symm⟩, hplaced⟩, hkey⟩

/-- The marks in the order of drawing are those of the series that are drawn. -/
theorem forall₂_marksInOrder (hkind : d.mark.kind.isSeries = true) (drawn : List (Row R)) :
    List.Forall₂ (fun first m ↦ d.seriesMark? (peers d.seriesKey drawn first) = some m)
      (d.firstRows drawn) (d.marksInOrder drawn) := by
  rw [marksInOrder, if_pos hkind, groupBy_eq, List.filterMap_map]
  exact forall₂_filter_filterMap _ _

/-- There is one mark for each series that has a row with a place, in the order in which the series
appear.  It stands for the rows of the series that have a place, in the order of drawing. -/
theorem marks_of_series {rows : List (Row R)} {marks : List (Mark R)}
    (hkind : d.mark.kind = .line ∨ d.mark.kind = .area) (h : d.marks rows = .ok marks) :
    (∀ row row', d.seriesKey row = d.seriesKey row' ↔
      ∀ c ∈ [Channel.color, .shape, .size, .opacity], ∀ s, d.encodings.scale? c = some s →
        s.isContinuous = false → ((d.encodings.value? c row).getD .null).key =
          ((d.encodings.value? c row').getD .null).key) ∧
    ∃ keys : List (List (Value R)), keys.Nodup ∧
      (∀ key, key ∈ keys ↔ ∃ row ∈ rows, d.seriesKey row = key ∧ d.isPlaced row) ∧
      (keys.Pairwise fun key key' ↦
        (d.encodings.drawOrder rows).findIdx (fun row ↦ d.seriesKey row = key) <
          (d.encodings.drawOrder rows).findIdx fun row ↦ d.seriesKey row = key') ∧
      List.Forall₂ (fun key m ↦ d.IsSeriesMark (d.seriesRows rows key) m) keys marks := by
  obtain ⟨-, -, h⟩ := bind_ok_iff.mp h
  obtain rfl := Except.ok.inj h
  have hseries : d.mark.kind.isSeries = true := by
    rcases hkind with hkind | hkind <;> rw [hkind] <;> rfl
  have hfirst : (d.firstRows (d.encodings.drawOrder rows)).Sublist
      (distinctBy d.seriesKey (d.encodings.drawOrder rows)) := List.filter_sublist
  refine ⟨fun _ _ ↦ seriesKey_eq_iff,
    (d.firstRows (d.encodings.drawOrder rows)).map d.seriesKey, ?_, fun key ↦ ?_, ?_, ?_⟩
  · exact (nodup_map_distinctBy d.seriesKey _).sublist (hfirst.map _)
  · rw [mem_map_firstRows]
    simp only [(d.encodings.drawOrder_perm rows).mem_iff]
  · exact List.pairwise_map.mpr ((pairwise_distinctBy d.seriesKey _).sublist hfirst)
  · refine List.forall₂_map_left_iff.mpr ((forall₂_marksInOrder hseries _).imp fun first m hm ↦ ?_)
    have hmark := isSeriesMark_of_seriesMark? hm
    rw [peers, List.filter_filter] at hmark
    simpa only [seriesRows, Bool.decide_and, Bool.decide_eq_true, Bool.and_comm] using hmark

/-! ### Tides of some harbours -/

/-- An axis from zero to ten. -/
def tideAxis (channel : Channel) : Scale ℚ where
  channel := channel
  type := .quantitative
  kind := .linear
  domain := .continuous 0 10
  range := .interval 0 100
  zero := true
  nice := false
  paddingInner := 0
  paddingOuter := 0

/-- The colours of harbours. -/
def harbourColors : Scale ℚ where
  channel := .color
  type := .nominal
  kind := .ordinal
  domain := .discrete [.string "east", .string "west", .string "north"]
  range := .colors []
  zero := false
  nice := false
  paddingInner := 0
  paddingOuter := 0

/-- The tides of each harbour as an area. -/
def tideAreas : Drawing ℚ where
  mark := ⟨.area, none⟩
  encodings :=
    [.field ⟨.plain .x "hour", 0, .quantitative, none, some (tideAxis .x)⟩,
      .field ⟨.plain .y "height", 1, .quantitative, none, some (tideAxis .y)⟩,
      .field ⟨.plain .color "harbour", 2, .nominal, none, some harbourColors⟩]
  extent := ⟨100, 100⟩
  config := .standard

/-- Tides of three harbours, one of which has not been measured. -/
def tides : List (Row ℚ) :=
  [⟨0, [.number 1, .null, .string "east"]⟩, ⟨1, [.number 1, .null, .string "north"]⟩,
    ⟨2, [.number 1, .number 4, .string "west"]⟩, ⟨3, [.number 2, .number 5, .string "east"]⟩,
    ⟨4, [.number 3, .number 6, .string "east"]⟩]

theorem marks_of_series_tides :
    (tideAreas.mark.kind = .line ∨ tideAreas.mark.kind = .area) ∧
    ∃ marks, tideAreas.marks tides = .ok marks ∧ marks.map (·.rows) = [[3, 4], [2]] ∧
      ∃ keys : List (List (Value ℚ)), keys.Nodup ∧
        (∀ key, key ∈ keys ↔
          ∃ row ∈ tides, tideAreas.seriesKey row = key ∧ tideAreas.isPlaced row) ∧
        List.Forall₂ (fun key m ↦ tideAreas.IsSeriesMark (tideAreas.seriesRows tides key) m) keys
          marks := by
  have hkind : tideAreas.mark.kind = .line ∨ tideAreas.mark.kind = .area := .inr rfl
  have hcomputed : (tideAreas.marks tides).toOption.map (fun marks ↦ marks.map (·.rows)) =
      some [[3, 4], [2]] := by
    decide +kernel
  obtain ⟨marks, h, hrows⟩ := exists_ok_of_map_eq_some hcomputed
  obtain ⟨-, keys, hnodup, hmem, -, hmarks⟩ := marks_of_series hkind h
  exact ⟨hkind, marks, h, hrows, keys, hnodup, hmem, hmarks⟩

end Drawing

end Charting
