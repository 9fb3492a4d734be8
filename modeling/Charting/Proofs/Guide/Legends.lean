import Charting.Proofs.Guide.Generation

/-!
# What legends explain

The legends of a plot are a partition of the channels that have one: channels that show the same
field share a legend, and channels that show different fields do not (`Encodings.IsPartition`).  A
legend goes through the values of its first channel, and tells for each of its channels what the
scale of this channel makes of them (`Legend.Explains`).
-/

namespace Charting

variable {R : Type}

/-! ## Channels that have legends -/

namespace Encodings

section Statement

variable (encodings : Encodings R)

/-- Whether a channel has a legend: it shows a field whose legend is not hidden. -/
def HasLegend (c : Channel) : Prop :=
  c ∈ legendChannels ∧ ∃ f, encodings.field? c = some f ∧ f.binding.legend ≠ .hidden

/-- Whether two channels show the same field. -/
def ShowSame (c c' : Channel) : Prop :=
  ∃ f f', encodings.field? c = some f ∧ encodings.field? c' = some f' ∧
    f.binding.field = f'.binding.field ∧ f.type = f'.type

/-- Each channel that has a legend is in one of these legends, with just the channels that show the
same field. -/
structure IsPartition (legends : List (Legend R)) : Prop where
  /-- A channel that has a legend is in one. -/
  existsUnique (c : Channel) : encodings.HasLegend c →
    ∃! i : Nat, ∃ l, legends[i]? = some l ∧ c ∈ l.channels
  /-- No other channel is in any. -/
  hasLegend : ∀ l ∈ legends, ∀ c ∈ l.channels, encodings.HasLegend c
  /-- Channels are together if they show the same field. -/
  shared_iff (c c' : Channel) : encodings.HasLegend c → encodings.HasLegend c' →
    ((∃ l ∈ legends, c ∈ l.channels ∧ c' ∈ l.channels) ↔ encodings.ShowSame c c')
  /-- The legends are in the order of their first channels. -/
  firsts_sublist : (legends.filterMap (·.channels.head?)).Sublist legendChannels

/-- The fields of the channels that can have legends are drawn through scales, whose images suit
the channels. -/
def ScalesSuit : Prop :=
  ∀ c ∈ legendChannels, ∀ f, encodings.field? c = some f →
    ∃ scale, f.scale = some scale ∧ scale.range.Suits c

end Statement

variable {encodings : Encodings R} {c c' : Channel} {f f' : FieldEncoding R}

/-- The fields that have legends are those of the channels that have. -/
theorem mem_legendFields (h : encodings.ScalesSuit) : f ∈ encodings.legendFields ↔
    encodings.field? f.channel = some f ∧ encodings.HasLegend f.channel := by
  rw [legendFields, List.mem_filterMap]
  simp only [Option.filter_eq_some_iff, Bool.and_eq_true, bne_iff_ne]
  constructor
  · rintro ⟨c, hc, hf, -, hlegend⟩
    obtain rfl := channel_of_field? hf
    exact ⟨hf, hc, f, hf, hlegend⟩
  · rintro ⟨hf, hc, f', hf', hlegend⟩
    obtain rfl := Option.some.inj (hf.symm.trans hf')
    obtain ⟨scale, hscale, -⟩ := h _ hc f hf
    exact ⟨f.channel, hc, hf, by rw [hscale]; rfl, hlegend⟩

/-- The fields that have legends are in the order of their channels. -/
theorem legendFields_sublist (encodings : Encodings R) :
    (encodings.legendFields.map (·.channel)).Sublist legendChannels :=
  sublist_map_filterMap (fun _ _ hf ↦ channel_of_field? (Option.filter_eq_some_iff.mp hf).1) _

/-- Two channels that have legends show the same field if the same is told about their fields. -/
theorem showSame_iff (hf : encodings.field? c = some f) (hf' : encodings.field? c' = some f') :
    encodings.ShowSame c c' ↔ f.key = f'.key := by
  constructor
  · rintro ⟨g, g', hg, hg', hfield, htype⟩
    obtain rfl := Option.some.inj (hf.symm.trans hg)
    obtain rfl := Option.some.inj (hf'.symm.trans hg')
    exact Prod.ext hfield htype
  · intro h
    exact ⟨f, f', hf, hf', congrArg Prod.fst h, congrArg Prod.snd h⟩

end Encodings

variable [Scalar R]

/-- The encodings of a view have scales that suit the channels. -/
theorem ViewSpec.scalesSuit_of_resolve {view : ViewSpec R} {data : Dataset R} {rows : List (Row R)}
    {extent : Size R} {config : Config R} {encodings : Encodings R}
    (h : view.resolve data rows extent config = .ok encodings) : encodings.ScalesSuit := by
  intro c hc f hf
  have hmem := List.mem_of_find?_eq_some (Encodings.on?_of_field? hf)
  obtain ⟨hscale, hmade⟩ := FieldBinding.exists_of_resolve (resolve_of_field_mem h hmem)
  obtain rfl : f.binding.channel = c := Encodings.channel_of_field? hf
  have hhasScale : ∀ c ∈ legendChannels, c.hasScale = true := by decide
  obtain ⟨scale, hscale⟩ := hscale (hhasScale _ hc)
  obtain ⟨req, hreq, values, hsynthesize⟩ := hmade scale hscale
  exact ⟨scale, hscale, hreq ▸ ScaleRequest.suits_of_synthesize hsynthesize⟩

/-! ## Entries -/

/-- What an entry shows on a channel. -/
def LegendEntry.output? (e : LegendEntry R) : Channel → Option (ScaleOutput R)
  | .color => e.color.map .color
  | .size => e.size.map .number
  | .shape => e.shape.map .shape
  | .opacity => e.opacity.map .number
  | _ => none

namespace ScaleOutput.Suits

variable {R : Type} {out : ScaleOutput R} {c : Channel}

theorem exists_color (h : out.Suits .color) : ∃ x, out = .color x := by
  cases out with
  | color x => exact ⟨x, rfl⟩
  | number _ => exact absurd rfl h.1
  | shape _ => cases h

theorem exists_shape (h : out.Suits .shape) : ∃ x, out = .shape x := by
  cases out with
  | shape x => exact ⟨x, rfl⟩
  | number _ => exact absurd rfl h.2
  | color _ => cases h

theorem exists_number (hcolor : c ≠ .color) (hshape : c ≠ .shape) (h : out.Suits c) :
    ∃ x, out = .number x := by
  cases out with
  | number x => exact ⟨x, rfl⟩
  | color _ => exact absurd h hcolor
  | shape _ => exact absurd h hshape

end ScaleOutput.Suits

/-- An entry shows on a channel what its value looks like there, if this is what the channel
shows. -/
theorem Legend.output?_entry {fields : List (FieldEncoding R)} {t : ScaleTick R} {c : Channel}
    (hc : c ∈ legendChannels) (hsuits : ∀ out, image? fields c t.value = some out → out.Suits c) :
    (entry fields t).output? c = image? fields c t.value := by
  have hchannels : c = .color ∨ c = .size ∨ c = .shape ∨ c = .opacity := by
    simpa [legendChannels] using hc
  cases himage : image? fields c t.value with
  | none =>
      obtain rfl | rfl | rfl | rfl := hchannels
      all_goals simp [LegendEntry.output?, entry, himage]
  | some out =>
      have hout := hsuits out himage
      obtain rfl | rfl | rfl | rfl := hchannels
      · obtain ⟨x, rfl⟩ := hout.exists_color
        simp [LegendEntry.output?, entry, himage, ScaleOutput.color?]
      · obtain ⟨x, rfl⟩ := hout.exists_number (by decide) (by decide)
        simp [LegendEntry.output?, entry, himage, ScaleOutput.number?]
      · obtain ⟨x, rfl⟩ := hout.exists_shape
        simp [LegendEntry.output?, entry, himage, ScaleOutput.shape?]
      · obtain ⟨x, rfl⟩ := hout.exists_number (by decide) (by decide)
        simp [LegendEntry.output?, entry, himage, ScaleOutput.number?]

omit [Scalar R] in
/-- An entry shows nothing on other channels. -/
theorem LegendEntry.output?_of_notMem (e : LegendEntry R) {c : Channel}
    (hc : c ∉ legendChannels) : e.output? c = none := by
  cases c with
  | color | size | shape | opacity => exact absurd (by decide) hc
  | _ => rfl

/-! ## Legends -/

/-- What a legend tells about its channels. -/
structure Legend.Explains (l : Legend R) (encodings : Encodings R) (config : Config R) : Prop where
  /-- The channels are in order. -/
  channels_sublist : l.channels.Sublist legendChannels
  /-- The entries are the values of a discrete domain, or the ticks of a continuous one, of the
  first channel, and they are on a ramp if this is a continuous scale of colours and the only
  channel. -/
  first : ∃ c scale, l.channels.head? = some c ∧ encodings.scale? c = some scale ∧
    l.entries.map (fun e ↦ ⟨e.value, e.label⟩) = scale.ticks config.tickCount ∧
    (∀ values, scale.domain = .discrete values → l.entries.map (·.value) = values) ∧
    (l.kind = .gradient ↔ l.channels = [.color] ∧ scale.isContinuous = true)
  /-- An entry shows on each channel of the legend what the scale of this channel makes of its
  value. -/
  output? : ∀ e ∈ l.entries, ∀ c, e.output? c =
    if c ∈ l.channels then (encodings.scale? c).bind (·.map? e.value) else none

/-- A value looks on a channel as the scale of the channel says. -/
theorem Legend.image?_eq {encodings : Encodings R} {fields : List (FieldEncoding R)}
    (hfields : ∀ f ∈ fields, encodings.field? f.channel = some f) (c : Channel) (v : Value R) :
    image? fields c v =
      if c ∈ fields.map (·.channel) then (encodings.scale? c).bind (·.map? v) else none := by
  unfold image?
  cases hfind : fields.find? (·.channel == c) with
  | none =>
      have hnotMem : c ∉ fields.map (·.channel) := by
        intro hmem
        obtain ⟨f, hf, rfl⟩ := List.mem_map.mp hmem
        simpa using List.find?_eq_none.mp hfind f hf
      rw [if_neg hnotMem]
      rfl
  | some f =>
      have hmem := List.mem_of_find?_eq_some hfind
      obtain rfl : f.channel = c := by simpa using List.find?_some hfind
      rw [if_pos (List.mem_map_of_mem hmem), Encodings.scale?, hfields f hmem]
      rfl

/-- Only a continuous scale of colours has a ramp, and only if no other channel shows the field. -/
theorem Legend.kind_eq_gradient_iff {f : FieldEncoding R} {rest : List (FieldEncoding R)}
    {scale : Scale R} (hscale : f.scale = some scale) (config : Config R) :
    (ofFields f rest config).kind = .gradient ↔
      (ofFields f rest config).channels = [.color] ∧ scale.isContinuous = true := by
  have hchannels : (ofFields f rest config).channels = f.channel :: rest.map (·.channel) := rfl
  have hkind : (ofFields f rest config).kind =
      if rest.isEmpty && f.channel == .color && scale.isContinuous then .gradient else .symbol := by
    rw [ofFields, hscale]
    rfl
  rw [hchannels, hkind]
  cases rest with
  | nil => simp
  | cons g rest => simp

namespace Encodings

variable {encodings : Encodings R} {config : Config R} {l l' : Legend R} {c : Channel}

/-- What a legend is made of. -/
theorem exists_of_mem_legends (hl : l ∈ encodings.legends config) :
    ∃ f rest, f ∈ distinctBy FieldEncoding.key encodings.legendFields ∧
      peers FieldEncoding.key encodings.legendFields f = f :: rest ∧
      l = Legend.ofFields f rest config := by
  rw [legends_eq] at hl
  obtain ⟨f, hf, rfl⟩ := List.mem_map.mp hl
  obtain ⟨rest, hrest⟩ := peers_of_mem_distinctBy hf
  exact ⟨f, rest, hf, hrest, by rw [hrest, List.tail_cons]⟩

/-- A legend has the channels of all fields that it is about. -/
theorem mem_channels (hl : l ∈ encodings.legends config) :
    c ∈ l.channels ↔ ∃ f ∈ encodings.legendFields, f.channel = c ∧ f.key = l.key := by
  obtain ⟨f, rest, -, hrest, rfl⟩ := exists_of_mem_legends hl
  have hchannels : (Legend.ofFields f rest config).channels =
      (peers FieldEncoding.key encodings.legendFields f).map (·.channel) := by
    rw [hrest]
    rfl
  rw [hchannels, List.mem_map]
  simp only [peers, List.mem_filter, decide_eq_true_eq]
  constructor
  · rintro ⟨f', ⟨hf', hkey⟩, hchannel⟩
    exact ⟨f', hf', hchannel, hkey⟩
  · rintro ⟨f', hf', hchannel, hkey⟩
    exact ⟨f', ⟨hf', hkey⟩, hchannel⟩

/-- A field that has a legend is what one of the legends is about. -/
theorem exists_legend_of_mem {f : FieldEncoding R} (hf : f ∈ encodings.legendFields)
    (config : Config R) : ∃ l ∈ encodings.legends config, l.key = f.key := by
  have hkeys : f.key ∈ (distinctBy FieldEncoding.key encodings.legendFields).map
      FieldEncoding.key :=
    mem_map_distinctBy.mpr (List.mem_map_of_mem hf)
  obtain ⟨g, hg, hkey⟩ := List.mem_map.mp hkeys
  rw [legends_eq]
  exact ⟨_, List.mem_map_of_mem hg, hkey⟩

/-- The fields of a legend have different channels. -/
theorem key_eq_of_mem_channels (h : encodings.ScalesSuit) (hl : l ∈ encodings.legends config)
    (hc : c ∈ l.channels) {f : FieldEncoding R} (hf : encodings.field? c = some f) :
    f.key = l.key := by
  obtain ⟨f', hf', rfl, hkey⟩ := (mem_channels hl).mp hc
  obtain rfl := Option.some.inj (hf.symm.trans ((mem_legendFields h).mp hf').1)
  exact hkey

/-- The legends are a partition of the channels that have legends. -/
theorem isPartition_legends (h : encodings.ScalesSuit) (config : Config R) :
    encodings.IsPartition (encodings.legends config) where
  existsUnique c hc := by
    obtain ⟨hmem, f, hf, hlegend⟩ := hc
    obtain rfl := channel_of_field? hf
    have hfields := (mem_legendFields h).mpr ⟨hf, hmem, f, hf, hlegend⟩
    obtain ⟨l, hl, hkey⟩ := exists_legend_of_mem hfields config
    obtain ⟨i, hi⟩ := List.getElem?_of_mem hl
    refine ⟨i, ⟨l, hi, (mem_channels hl).mpr ⟨f, hfields, rfl, hkey.symm⟩⟩, ?_⟩
    rintro j ⟨l', hj, hc⟩
    -- Both legends are about the field of the channel, and no two legends are about the same field.
    have hkey' := key_eq_of_mem_channels h (List.mem_of_getElem? hj) hc hf
    have hlt : j < ((encodings.legends config).map Legend.key).length := by
      simpa using (List.getElem?_eq_some_iff.mp hj).1
    have hkeys : ((encodings.legends config).map Legend.key)[j]? =
        ((encodings.legends config).map Legend.key)[i]? := by
      rw [List.getElem?_map, List.getElem?_map, hi, hj, Option.map_some, Option.map_some, hkey,
        hkey']
    exact (List.getElem?_inj hlt (nodup_legends encodings config)).mp hkeys
  hasLegend l hl c hc := by
    obtain ⟨f, hf, rfl, -⟩ := (mem_channels hl).mp hc
    exact ((mem_legendFields h).mp hf).2
  shared_iff c c' hc hc' := by
    obtain ⟨-, f, hf, -⟩ := id hc
    obtain ⟨-, f', hf', -⟩ := id hc'
    rw [showSame_iff hf hf']
    constructor
    · rintro ⟨l, hl, hmem, hmem'⟩
      exact (key_eq_of_mem_channels h hl hmem hf).trans
        (key_eq_of_mem_channels h hl hmem' hf').symm
    · intro hkey
      obtain rfl := channel_of_field? hf
      obtain rfl := channel_of_field? hf'
      have hfields := (mem_legendFields h).mpr ⟨hf, hc⟩
      have hfields' := (mem_legendFields h).mpr ⟨hf', hc'⟩
      obtain ⟨l, hl, hlkey⟩ := exists_legend_of_mem hfields config
      exact ⟨l, hl, (mem_channels hl).mpr ⟨f, hfields, rfl, hlkey.symm⟩,
        (mem_channels hl).mpr ⟨f', hfields', rfl, hkey.symm.trans hlkey.symm⟩⟩
  firsts_sublist := by
    have hfirsts : (encodings.legends config).filterMap (·.channels.head?) =
        (distinctBy FieldEncoding.key encodings.legendFields).map (·.channel) := by
      rw [legends_eq, List.filterMap_map, ← List.filterMap_eq_map]
      rfl
    rw [hfirsts]
    exact ((distinctBy_sublist _ _).map _).trans (legendFields_sublist encodings)

/-- What the scale of a channel makes of a value is what the channel shows. -/
theorem ScalesSuit.suits (h : encodings.ScalesSuit) (hc : c ∈ legendChannels) {v : Value R}
    {out : ScaleOutput R} (hout : (encodings.scale? c).bind (·.map? v) = some out) :
    out.Suits c := by
  obtain ⟨scale, hscale, hmap⟩ := Option.bind_eq_some_iff.mp hout
  obtain ⟨f, hf, hscale⟩ := Option.bind_eq_some_iff.mp hscale
  obtain ⟨scale', hscale', hsuits⟩ := h c hc f hf
  obtain rfl := Option.some.inj (hscale.symm.trans hscale')
  exact Scale.suits_of_map? hsuits hmap

/-- An entry for some of the fields that have legends shows on each of their channels what the
scale of the channel makes of its value. -/
theorem output?_entry (h : encodings.ScalesSuit) {fields : List (FieldEncoding R)}
    (hfields : ∀ f ∈ fields, f ∈ encodings.legendFields) (t : ScaleTick R) (c : Channel) :
    (Legend.entry fields t).output? c =
      if c ∈ fields.map (·.channel) then (encodings.scale? c).bind (·.map? t.value) else none := by
  have himage := Legend.image?_eq (fun f hf ↦ ((mem_legendFields h).mp (hfields f hf)).1) c t.value
  by_cases hc : c ∈ legendChannels
  · rw [← himage]
    refine Legend.output?_entry hc fun out hout ↦ ?_
    rw [himage] at hout
    split at hout
    · exact h.suits hc hout
    · cases hout
  · have hnotMem : c ∉ fields.map (·.channel) := by
      intro hmem
      obtain ⟨f, hf, rfl⟩ := List.mem_map.mp hmem
      exact hc ((mem_legendFields h).mp (hfields f hf)).2.1
    rw [if_neg hnotMem, LegendEntry.output?_of_notMem _ hc]

/-- A legend tells what there is to tell about its channels. -/
theorem explains_of_mem_legends (h : encodings.ScalesSuit) (hl : l ∈ encodings.legends config) :
    l.Explains encodings config := by
  obtain ⟨f, rest, -, hrest, rfl⟩ := exists_of_mem_legends hl
  have hsublist : (f :: rest).Sublist encodings.legendFields := hrest ▸ List.filter_sublist
  obtain ⟨hf, hc, -⟩ := (mem_legendFields h).mp (hsublist.subset List.mem_cons_self)
  obtain ⟨scale, hscale, -⟩ := h _ hc f hf
  have hentries : (Legend.ofFields f rest config).entries =
      (scale.ticks config.tickCount).map (Legend.entry (f :: rest)) := by
    rw [Legend.ofFields, hscale]
    rfl
  refine
    { channels_sublist := (hsublist.map _).trans (legendFields_sublist encodings)
      first := ⟨f.channel, scale, rfl, ?_, ?_, fun values hdomain ↦ ?_,
        Legend.kind_eq_gradient_iff hscale config⟩
      output? := fun e he c ↦ ?_ }
  · rw [scale?, hf]
    exact hscale
  · rw [hentries, List.map_map]
    exact List.map_id _
  · rw [hentries, Scale.ticks, hdomain, List.map_map, List.map_map]
    exact List.map_id _
  · rw [hentries] at he
    obtain ⟨t, -, rfl⟩ := List.mem_map.mp he
    exact output?_entry h (fun g hg ↦ hsublist.subset hg) t c

end Encodings

/-- The legends of a plot are a partition of the channels that have legends, and they tell what the
scales of their channels make of the values of the first one. -/
theorem legends_partition_channels {view : ViewSpec R} {data : Dataset R} {rows : List (Row R)}
    {extent : Size R} {config : Config R} {encodings : Encodings R}
    (h : view.resolve data rows extent config = .ok encodings) (config' : Config R) :
    encodings.IsPartition (encodings.guides config').legends ∧
      ∀ l ∈ (encodings.guides config').legends, l.Explains encodings config' :=
  ⟨Encodings.isPartition_legends (ViewSpec.scalesSuit_of_resolve h) config',
    fun _ hl ↦ Encodings.explains_of_mem_legends (ViewSpec.scalesSuit_of_resolve h) hl⟩

/-! ### Two flowers -/

/-- Flowers and the lengths of their petals. -/
def flowers : Dataset ℚ :=
  .ofRows [.untyped "species", .untyped "petal"]
    [[.string "iris", .number 5], [.string "lily", .number 20]]

/-- Points with a shape and a colour for each species, and with a size and an opacity for the length
of the petals, of which only the size is explained. -/
def flowerView : ViewSpec ℚ where
  mark := ⟨.point, none⟩
  encodings := [.field (.plain .shape "species"), .field (.plain .size "petal"),
    .field { FieldBinding.plain .opacity "petal" with legend := .hidden },
    .field (.plain .color "species")]
  width := none
  height := none

theorem legends_partition_channels_flowers :
    ∃ encodings, flowerView.resolve flowers flowers.rows ⟨200, 100⟩ .standard = .ok encodings ∧
      (encodings.guides .standard).legends.map
        (fun l ↦ (l.channels, l.kind, l.entries.map (·.value))) =
        [([.color, .shape], .symbol, [.string "iris", .string "lily"]),
          ([.size], .symbol, [.number 0, .number 5, .number 10, .number 15, .number 20])] ∧
      encodings.IsPartition (encodings.guides .standard).legends ∧
      ∀ l ∈ (encodings.guides .standard).legends, l.Explains encodings .standard := by
  have hcomputed : (flowerView.resolve flowers flowers.rows ⟨200, 100⟩ .standard).toOption.map
      (fun encodings ↦ (encodings.guides .standard).legends.map
        (fun l ↦ (l.channels, l.kind, l.entries.map (·.value)))) =
      some [([.color, .shape], .symbol, [.string "iris", .string "lily"]),
        ([.size], .symbol, [.number 0, .number 5, .number 10, .number 15, .number 20])] := by
    decide +kernel
  obtain ⟨encodings, h, hlegends⟩ := exists_ok_of_map_eq_some hcomputed
  obtain ⟨hpartition, hexplains⟩ := legends_partition_channels h .standard
  exact ⟨encodings, h, hlegends, hpartition, hexplains⟩

end Charting
