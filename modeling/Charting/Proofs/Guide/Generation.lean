import Charting.Proofs.Data.Grouping
import Charting.Proofs.Encoding.Resolution
import Charting.Proofs.Numeric.Laws
import Charting.Proofs.Scale.Synthesis
import Charting.Guide.Generation
import Charting.Mark.Place

/-!
# What guides are about

The axes of a plot are about different channels, and its legends about different fields
(`Encodings.nodup_axes`, `Encodings.nodup_legends`).  The ticks of an axis are where rows with their
values are drawn (`Encodings.center_of_mem_axes`).  Guides that look the same do so both ways
(`Axis.same_comm`).
-/

namespace Charting

variable {R : Type}

/-! ## Scales and their channels -/

namespace Encodings

/-- Every scale is a scale of the channel that it is used for. -/
def ScalesFit (encodings : Encodings R) : Prop :=
  ∀ f, .field f ∈ encodings → ∀ scale, f.scale = some scale → scale.channel = f.channel

variable {encodings : Encodings R} {c : Channel} {f : FieldEncoding R}

/-- A field that a channel shows is the first encoding of the channel. -/
theorem on?_of_field? (h : encodings.field? c = some f) : encodings.on? c = some (.field f) := by
  obtain ⟨e, he, hf⟩ := Option.bind_eq_some_iff.mp h
  cases e with
  | field f' =>
      obtain rfl : f' = f := Option.some.inj hf
      exact he
  | constant => cases hf

/-- A field that a channel shows is a field of this channel. -/
theorem channel_of_field? (h : encodings.field? c = some f) : f.channel = c := by
  have hchannel : (Encoding.field f).channel = c := by
    simpa using List.find?_some (on?_of_field? h)
  exact hchannel

/-- The scale of a channel is a scale of this channel. -/
theorem ScalesFit.channel_eq (h : encodings.ScalesFit) (hf : encodings.field? c = some f)
    {scale : Scale R} (hscale : f.scale = some scale) : scale.channel = c :=
  (h f (List.mem_of_find?_eq_some (on?_of_field? hf)) scale hscale).trans (channel_of_field? hf)

end Encodings

variable [Scalar R]

/-- The encoding of a field has a scale if its channel is drawn through one, and the scale is made
for this channel. -/
theorem FieldBinding.exists_of_resolve {b : FieldBinding R} {mark : MarkKind} {data : Dataset R}
    {rows : List (Row R)} {extent : Size R} {config : Config R} {f : FieldEncoding R}
    (h : b.resolve mark data rows extent config = .ok f) :
    (b.channel.hasScale = true → ∃ scale, f.scale = some scale) ∧
      ∀ scale, f.scale = some scale → ∃ req : ScaleRequest R, req.channel = b.channel ∧
        ∃ values, req.synthesize values b.scale b.sort config = .ok scale := by
  cases hcolumn : data.columnIndex? b.field with
  | none =>
      rw [resolve_of_columnIndex?_none hcolumn] at h
      cases h
  | some column =>
      rw [resolve_of_columnIndex? hcolumn] at h
      obtain ⟨-, -, h⟩ := bind_ok_iff.mp h
      obtain ⟨made, hmade, h⟩ := bind_ok_iff.mp h
      obtain rfl := Except.ok.inj h
      unfold scaleOver at hmade
      split at hmade
      case isTrue =>
        obtain ⟨scale, hsynthesize, rfl⟩ := map_ok_iff.mp hmade
        refine ⟨fun _ ↦ ⟨scale, rfl⟩, fun scale' hscale' ↦ ?_⟩
        obtain rfl := Option.some.inj hscale'
        exact ⟨_, rfl, _, hsynthesize⟩
      case isFalse hscale =>
        obtain rfl := Except.ok.inj hmade
        exact ⟨fun h ↦ absurd h hscale, fun scale' hscale' ↦ by cases hscale'⟩

namespace ViewSpec

variable {view : ViewSpec R} {data : Dataset R} {rows : List (Row R)} {extent : Size R}
  {config : Config R} {encodings : Encodings R}

/-- The fields that a view shows come from its bindings. -/
theorem resolve_of_field_mem (h : view.resolve data rows extent config = .ok encodings)
    {f : FieldEncoding R} (hf : .field f ∈ encodings) :
    f.binding.resolve view.mark.kind data rows extent config = .ok f := by
  obtain ⟨-, -, h⟩ := bind_ok_iff.mp h
  obtain ⟨b, hb⟩ := exists_of_forall₂ (mapM_ok_iff.mp h).flip _ hf
  cases b with
  | constant channel v =>
      obtain ⟨_, -, hb⟩ := map_ok_iff.mp hb
      cases hb
  | field b =>
      obtain ⟨f', hresolve, hf'⟩ := map_ok_iff.mp hb
      obtain rfl := Encoding.field.inj hf'
      rwa [FieldBinding.binding_of_resolve hresolve]

/-- The encodings of a view have scales of the channels that they are used for. -/
theorem scalesFit_of_resolve (h : view.resolve data rows extent config = .ok encodings) :
    encodings.ScalesFit := by
  intro f hf scale hscale
  obtain ⟨req, hchannel, values, hsynthesize⟩ :=
    (FieldBinding.exists_of_resolve (resolve_of_field_mem h hf)).2 scale hscale
  exact (ScaleRequest.synthesize_cases hsynthesize).1.trans hchannel

end ViewSpec

/-! ## Looking the same -/

/-- The comparison of lists is symmetric if that of their elements is. -/
theorem list_beq_comm {α : Type} [BEq α] (h : ∀ a b : α, (a == b) = (b == a)) (xs ys : List α) :
    (xs == ys) = (ys == xs) := by
  induction xs generalizing ys with
  | nil => cases ys <;> rfl
  | cons x xs ih =>
      cases ys with
      | nil => rfl
      | cons y ys => rw [List.cons_beq_cons, List.cons_beq_cons, h, ih]

section Same

variable [LawfulScalar R]

/-- The comparison of values is symmetric. -/
theorem Value.beq_comm (v w : Value R) : (v == w) = (w == v) := by
  cases v with
  | null => cases w <;> rfl
  | number x =>
      cases w with
      | number y => exact BEq.comm (a := x)
      | _ => rfl
  | string s =>
      cases w with
      | string t => exact BEq.comm (a := s)
      | _ => rfl
  | time t =>
      cases w with
      | time u => exact BEq.comm (a := t)
      | _ => rfl

/-- The comparison of domains is symmetric. -/
theorem ScaleDomain.beq_comm (d e : ScaleDomain R) : (d == e) = (e == d) := by
  cases d with
  | continuous lo hi =>
      cases e with
      | continuous lo' hi' => exact congrArg₂ and (BEq.comm (a := lo)) (BEq.comm (a := hi))
      | discrete _ => rfl
  | discrete values =>
      cases e with
      | continuous _ _ => rfl
      | discrete values' => exact list_beq_comm Value.beq_comm _ _

theorem AxisTick.beq_comm (t u : AxisTick R) : (t == u) = (u == t) :=
  congrArg₂ and (Value.beq_comm _ _)
    (congrArg₂ and (BEq.comm (a := t.position)) (BEq.comm (a := t.label)))

/-- Axes look the same both ways. -/
theorem Axis.same_comm (a b : Axis R) : a.same b = b.same a := by
  have hrange : (a.range == b.range) = (b.range == a.range) :=
    congrArg₂ and (BEq.comm (a := a.range.1)) (BEq.comm (a := a.range.2))
  rw [same, same, BEq.comm (a := a.channel), BEq.comm (a := a.orient), BEq.comm (a := a.kind),
    ScaleDomain.beq_comm, hrange, list_beq_comm AxisTick.beq_comm, BEq.comm (a := a.title)]

end Same

/-! ## Axes -/

/-- Things that tell what they have been made of tell it in the order in which they are made. -/
theorem sublist_map_filterMap {α β : Type} {g : α → Option β} {key : β → α}
    (h : ∀ x y, g x = some y → key y = x) (xs : List α) :
    ((xs.filterMap g).map key).Sublist xs := by
  induction xs with
  | nil => exact .slnil
  | cons x xs ih =>
      cases hx : g x with
      | none =>
          rw [List.filterMap_cons_none hx]
          exact ih.cons x
      | some y =>
          rw [List.filterMap_cons_some hx, List.map_cons, h x y hx]
          exact ih.cons_cons x

/-- Things that tell what they have been made of are different if they are made of different
things. -/
theorem nodup_map_filterMap {α β : Type} {g : α → Option β} {key : β → α}
    (h : ∀ x y, g x = some y → key y = x) {xs : List α} (hxs : xs.Nodup) :
    ((xs.filterMap g).map key).Nodup :=
  hxs.sublist (sublist_map_filterMap h xs)

/-- An axis is about the channel of its scale, and so are its ticks. -/
theorem Axis.of_ofScale? {scale : Scale R} {title : String} {count : Nat} {a : Axis R}
    (h : Axis.ofScale? scale title count = some a) :
    a.channel = scale.channel ∧ a.ticks = Axis.ticksOf scale count := by
  unfold Axis.ofScale? at h
  split at h
  · rw [← Option.some.inj h]
    exact ⟨rfl, rfl⟩
  · cases h

namespace Encodings

variable {encodings : Encodings R} {config : Config R}

/-- What an axis is made of. -/
theorem exists_of_mem_axes (h : encodings.ScalesFit) {a : Axis R}
    (ha : a ∈ encodings.axes config) : a.channel ∈ axisChannels ∧
      ∃ f scale, encodings.field? a.channel = some f ∧ f.scale = some scale ∧
        a.ticks = Axis.ticksOf scale config.tickCount := by
  obtain ⟨c, hc, ha⟩ := List.mem_filterMap.mp ha
  obtain ⟨f, hf, ha⟩ := Option.bind_eq_some_iff.mp ha
  obtain ⟨scale, hscale, ha⟩ := Option.bind_eq_some_iff.mp ha
  obtain ⟨hchannel, hticks⟩ := Axis.of_ofScale? ha
  rw [h.channel_eq hf hscale] at hchannel
  rw [hchannel]
  exact ⟨hc, f, scale, hf, hscale, hticks⟩

/-- No two axes are about the same channel. -/
theorem nodup_axes (h : encodings.ScalesFit) :
    ((encodings.axes config).map (·.channel)).Nodup := by
  refine nodup_map_filterMap (fun c a ha ↦ ?_) (by decide)
  obtain ⟨f, hf, ha⟩ := Option.bind_eq_some_iff.mp ha
  obtain ⟨scale, hscale, ha⟩ := Option.bind_eq_some_iff.mp ha
  rw [(Axis.of_ofScale? ha).1, h.channel_eq hf hscale]

end Encodings

/-! ## Ticks and marks -/

/-- The image of a value that has a band is the middle of the band. -/
theorem Scale.mapNumber?_of_band? {scale : Scale R} {v : Value R} {start width : R}
    (h : scale.band? v = some (start, width)) :
    scale.mapNumber? v = some (start + 0.5 * width) := by
  obtain ⟨bands, hbands, h⟩ := Option.bind_eq_some_iff.mp h
  obtain ⟨i, hi, h⟩ := Option.bind_eq_some_iff.mp h
  obtain ⟨rfl, rfl⟩ := Prod.mk.inj (Option.some.inj h)
  have hbands' := hbands
  unfold bands? at hbands
  split at hbands
  case h_1 values r₀ r₁ hkind hdomain hrange =>
    rw [mapNumber?, map?, hdomain]
    change ((scale.index? v).bind _).bind _ = _
    rw [hi, Option.bind_some, mapIndex?, hrange]
    simp only [hbands']
    rfl
  case h_2 => cases hbands

namespace Encodings

variable {encodings : Encodings R} {config : Config R}

/-- A row with a value that is drawn is drawn where the scale says. -/
theorem mapNumber?_of_place? {c : Channel} {f : FieldEncoding R} {scale : Scale R} {row : Row R}
    {v : Value R} {place : Place R} (hf : encodings.field? c = some f)
    (hscale : f.scale = some scale) (hv : f.value? row = some v)
    (hplace : encodings.place? c row = some place) (extent : R) :
    scale.mapNumber? v = some (place.center extent) := by
  rw [place?, on?_of_field? hf] at hplace
  simp only [hscale, hv, Option.bind_eq_bind, Option.bind_some] at hplace
  cases hband : scale.band? v with
  | some band =>
      rw [hband] at hplace
      rw [← Option.some.inj hplace]
      exact Scale.mapNumber?_of_band? hband
  | none =>
      rw [hband] at hplace
      obtain ⟨p, hp, rfl⟩ := Option.map_eq_some_iff.mp hplace
      exact (Option.filter_eq_some_iff.mp hp).1

/-- The ticks of an axis are where rows with their values are drawn. -/
theorem center_of_mem_axes (h : encodings.ScalesFit) {a : Axis R} (ha : a ∈ encodings.axes config)
    {t : AxisTick R} (ht : t ∈ a.ticks) {row : Row R}
    (hv : encodings.value? a.channel row = some t.value) {place : Place R}
    (hplace : encodings.place? a.channel row = some place) (extent : R) :
    place.center extent = t.position := by
  obtain ⟨-, f, scale, hf, hscale, hticks⟩ := exists_of_mem_axes h ha
  rw [hticks] at ht
  obtain ⟨tick, -, ht⟩ := List.mem_filterMap.mp ht
  obtain ⟨p, hp, rfl⟩ := Option.map_eq_some_iff.mp ht
  rw [value?, hf] at hv
  exact Option.some.inj ((mapNumber?_of_place? hf hscale hv hplace extent).symm.trans hp)

end Encodings

/-! ## Legends -/

/-- What a legend is about. -/
def Legend.key (l : Legend R) : String × DataType := (l.field, l.type)

/-- What a legend would tell about a field. -/
def FieldEncoding.key (f : FieldEncoding R) : String × DataType := (f.binding.field, f.type)

namespace Encodings

variable (encodings : Encodings R) (config : Config R)

/-- There is a legend for each field that has not been seen before, and it is about all channels
that show the field. -/
theorem legends_eq : encodings.legends config =
    (distinctBy FieldEncoding.key encodings.legendFields).map fun f ↦
      Legend.ofFields f (peers FieldEncoding.key encodings.legendFields f).tail config := by
  rw [legends, groupBy_eq, List.filterMap_map, ← List.filterMap_eq_map]
  refine List.filterMap_congr fun f hf ↦ ?_
  obtain ⟨rest, hrest⟩ := peers_of_mem_distinctBy (f := FieldEncoding.key) hf
  have hpeers : peers (fun f ↦ (f.binding.field, f.type)) encodings.legendFields f = f :: rest :=
    hrest
  simp only [Function.comp_apply, hpeers, hrest, List.tail_cons]

/-- No two legends are about the same field. -/
theorem nodup_legends : ((encodings.legends config).map Legend.key).Nodup := by
  rw [legends_eq, List.map_map]
  exact nodup_map_distinctBy FieldEncoding.key encodings.legendFields

end Encodings

end Charting
