import MeshConsole.Proofs.Radio.Megahertz
import MeshConsole.Proofs.Session.History
import MeshConsole.Proofs.Table.Elements
import MeshConsole.Proofs.Table.Shape

/-!
# The frequency warning

The warning joins two fields of a status: the devices are the items of an array, and their radios the
entries of an object by address. Both are loose, and so are the figures in the settings of a radio:

    devices   ──deviceAddress?──▶ address ┐
    airosdata ──entryUnder?───────────────┴──▶ settings ──megahertz?──▶ frequency, width ──▶ band

The dashboard shows the warning if and only if the band of some device straddles the thresholds
(`Json.HasBand`), and whatever gives no device a band has no part in it.
-/

namespace MeshConsole

open Json (Fields)

/-! ## Bands in a status -/

/-- A band begins below the lower threshold and ends above the upper one. -/
def Thresholds.StraddledBy (thresholds : Thresholds) (frequency width : Int) : Prop :=
  Float.ofInt frequency - Float.ofInt width / 2 < thresholds.low ∧
    Float.ofInt frequency + Float.ofInt width / 2 > thresholds.high

namespace Json

/-- The entry of an address in the radios of a status. -/
def radioEntry? (status : Json) (ip : String) : Option Json :=
  status.entryUnder? Status.names "airosdata" ip

/-- An entry is a record with settings that are one too. -/
def HasSettings (entry settings : Json) : Prop :=
  entry.IsRecord 1 ∧ entry.under? ["wireless"] "wireless" = some settings ∧
    settings.IsRecord Wireless.names.length

/-- The figure of a name in the settings of a radio, if it is a number of megahertz but zero. -/
def HasFigure (settings : Json) (name : String) (figure : Int) : Prop :=
  (∃ value, settings.under? Wireless.names name = some value ∧
    Radio.megahertz? value = some figure) ∧ figure ≠ 0

/-- An item is a device with a radio under its address that has a frequency and a width. -/
def HasBand (status item : Json) (frequency width : Int) : Prop :=
  item.IsRecord Device.names.length ∧ ∃ ip entry settings,
    item.deviceAddress? = some ip ∧ status.radioEntry? ip = some entry ∧
      entry.HasSettings settings ∧ settings.HasFigure "frequency" frequency ∧
      settings.HasFigure "chanbw" width

theorem HasBand.congr {status status' item : Json} {frequency width : Int}
    (h : status.HasBand item frequency width)
    (hsame : ∀ ip ∈ item.deviceAddress?, status.radioEntry? ip = status'.radioEntry? ip) :
    status'.HasBand item frequency width := by
  obtain ⟨hdevice, ip, entry, settings, hip, hentry, hsettings⟩ := h
  exact ⟨hdevice, ip, entry, settings, hip, (hsame ip hip).symm.trans hentry, hsettings⟩

end Json

/-! ## Radios -/

namespace Radio

/-- A radio has a frequency and a width, neither of them zero. -/
structure Occupies (radio : Radio) (frequency width : Int) : Prop where
  frequency_eq : radio.frequency = some frequency
  frequency_ne : frequency ≠ 0
  width_eq : radio.width = some width
  width_ne : width ≠ 0

variable {radio : Radio} {frequency width : Int}

theorem Occupies.band?_eq (h : radio.Occupies frequency width) :
    radio.band? = some (Float.ofInt frequency - Float.ofInt width / 2,
      Float.ofInt frequency + Float.ofInt width / 2) := by
  obtain ⟨hfrequency, hfrequencyNe, hwidth, hwidthNe⟩ := h
  have hfilter (figure : Int) (hfigure : figure ≠ 0) :
      (some figure).filter (· != 0) = some figure :=
    Option.filter_some_pos (bne_iff_ne.mpr hfigure)
  unfold band?
  rw [hfrequency, hwidth, hfilter frequency hfrequencyNe, hfilter width hwidthNe]

theorem exists_occupies_of_band? {band : Float × Float} (h : radio.band? = some band) :
    ∃ frequency width, radio.Occupies frequency width := by
  unfold band? at h
  split at h
  · next frequency width hfrequency hwidth =>
      obtain ⟨hfrequency, hfrequencyNe⟩ := Option.filter_eq_some_iff.mp hfrequency
      obtain ⟨hwidth, hwidthNe⟩ := Option.filter_eq_some_iff.mp hwidth
      exact ⟨frequency, width, hfrequency, bne_iff_ne.mp hfrequencyNe, hwidth,
        bne_iff_ne.mp hwidthNe⟩
  · cases h

/-- The warning is about one radio whose band straddles the thresholds. -/
theorem overlap_eq_true_iff {thresholds : Thresholds} {radios : List Radio} :
    overlap thresholds radios = true ↔ ∃ radio ∈ radios, ∃ frequency width,
      radio.Occupies frequency width ∧ thresholds.StraddledBy frequency width := by
  have hstraddles (radio : Radio) (frequency width : Int) (h : radio.Occupies frequency width) :
      (∃ band, radio.band? = some band ∧ straddles thresholds band = true) ↔
        thresholds.StraddledBy frequency width := by
    rw [h.band?_eq]
    simp [straddles, Thresholds.StraddledBy]
  unfold overlap
  simp only [List.any_eq_true, List.mem_filterMap]
  constructor
  · rintro ⟨band, ⟨radio, hradio, hband⟩, hstraddled⟩
    obtain ⟨frequency, width, hoccupies⟩ := exists_occupies_of_band? hband
    exact ⟨radio, hradio, frequency, width, hoccupies,
      (hstraddles radio frequency width hoccupies).mp ⟨band, hband, hstraddled⟩⟩
  · rintro ⟨radio, hradio, frequency, width, hoccupies, hstraddled⟩
    obtain ⟨band, hband, hstraddled⟩ :=
      (hstraddles radio frequency width hoccupies).mpr hstraddled
    exact ⟨band, ⟨radio, hradio, hband⟩, hstraddled⟩

/-- Null is no figure, so it makes no difference that it counts as missing. -/
theorem bind_megahertz?_present? (value : Option Json) :
    (value.bind Json.present?).bind megahertz? = value.bind megahertz? := by
  cases value with
  | none => rfl
  | some value => cases value <;> rfl

theorem occupies_ofWireless_iff {settings : Json} {wireless : Wireless}
    (h : Payload.ofJson? settings = some wireless) :
    (ofWireless wireless).Occupies frequency width ↔
      settings.HasFigure "frequency" frequency ∧ settings.HasFigure "chanbw" width := by
  obtain ⟨fields, hfields, rfl⟩ := Option.map_eq_some_iff.mp h
  have hlookup := Json.lookup_of_recordFields? hfields
  have hfigure (name : String) (figure : Int) :
      (fields.value? name).bind megahertz? = some figure ↔
        ∃ value, settings.under? Wireless.names name = some value ∧
          megahertz? value = some figure := by
    rw [Fields.value?, bind_megahertz?_present?, hlookup, Option.bind_eq_some_iff]
  constructor
  · rintro ⟨hfrequency, hfrequencyNe, hwidth, hwidthNe⟩
    exact ⟨⟨(hfigure _ _).mp hfrequency, hfrequencyNe⟩, (hfigure _ _).mp hwidth, hwidthNe⟩
  · rintro ⟨⟨hfrequency, hfrequencyNe⟩, hwidth, hwidthNe⟩
    exact ⟨(hfigure _ _).mpr hfrequency, hfrequencyNe, (hfigure _ _).mpr hwidth, hwidthNe⟩

end Radio

/-- The radio that an entry of a status gives; none if it is no record or has no settings. -/
def Airos.radio? (entry : Json) : Option Radio :=
  (Payload.ofJson? entry).bind fun airos : Airos => airos.wireless.map Radio.ofWireless

theorem Json.Fields.value?_eq_some_iff {fields : Fields} {name : String} {value : Json} :
    fields.value? name = some value ↔ fields.lookup name = some value ∧ value ≠ .null := by
  have hpresent (found : Json) : found.present? = some value ↔ found = value ∧ value ≠ .null := by
    cases found <;> simp [present?] <;> rintro rfl <;> simp
  unfold value?
  simp [Option.bind_eq_some_iff, hpresent]

theorem Airos.radio?_eq_some_iff {entry : Json} {radio : Radio} :
    radio? entry = some radio ↔ ∃ settings wireless, entry.HasSettings settings ∧
      Payload.ofJson? settings = some wireless ∧ Radio.ofWireless wireless = radio := by
  constructor
  · intro h
    obtain ⟨airos, hairos, h⟩ := Option.bind_eq_some_iff.mp h
    obtain ⟨wireless, hwireless, hradio⟩ := Option.map_eq_some_iff.mp h
    obtain ⟨fields, hfields, hairos⟩ := Option.bind_eq_some_iff.mp hairos
    split at hairos
    · cases hairos
      cases hwireless
    · next settings hsettings =>
        obtain ⟨decoded, hdecoded, rfl⟩ := Option.map_eq_some_iff.mp hairos
        cases hwireless
        have hunder := (Fields.value?_eq_some_iff.mp hsettings).1
        rw [Json.lookup_of_recordFields? hfields] at hunder
        refine ⟨settings, wireless, ⟨?_, hunder, ?_⟩, hdecoded, hradio⟩
        · exact Json.isSome_recordFields?_iff.mp (Option.isSome_of_mem hfields)
        · obtain ⟨found, hfound, -⟩ := Option.map_eq_some_iff.mp hdecoded
          exact Json.isSome_recordFields?_iff.mp (Option.isSome_of_mem hfound)
  · rintro ⟨settings, wireless, ⟨hentry, hunder, hsettings⟩, hwireless, rfl⟩
    have hrecord : (Json.recordFields? ["wireless"] entry).isSome :=
      Json.isSome_recordFields?_iff.mpr hentry
    obtain ⟨fields, hfields⟩ := Option.isSome_iff_exists.mp hrecord
    have hvalue : fields.value? "wireless" = some settings := by
      refine Fields.value?_eq_some_iff.mpr ⟨?_, fun hnull => ?_⟩
      · rw [Json.lookup_of_recordFields? hfields, hunder]
      · rw [hnull] at hsettings
        exact hsettings
    have hairos : Payload.ofJson? entry = some (Airos.mk (some wireless)) := by
      refine Option.bind_eq_some_iff.mpr ⟨fields, hfields, ?_⟩
      rw [hvalue]
      exact Option.map_eq_some_iff.mpr ⟨wireless, hwireless, rfl⟩
    unfold radio?
    rw [hairos]
    rfl

/-! ## Statuses that were delivered -/

/-- A status has the devices and the radios of a value. -/
structure Status.IsOf (status : Status) (value : Json) : Prop where
  devices_eq : status.devices = (TableId.devices.items value).filterMap Payload.ofJson?
  lookup_radios : ∀ ip, status.radios.lookup ip = (value.radioEntry? ip).bind Airos.radio?

/-- The radio of an address is found in its entry, since no address has two entries. -/
theorem Status.lookup_radios_ofFields {fields : Fields} {value : Json}
    (hlookup : ∀ name, fields.lookup name = value.under? names name)
    (hcanonical : ∀ part, value.under? names "airosdata" = some part → part.canonical = part)
    (ip : String) :
    (Status.ofFields fields).radios.lookup ip = (value.radioEntry? ip).bind Airos.radio? := by
  show (((fields.entries "airosdata").filterMap _).lookup ip) = _
  unfold Fields.entries Json.radioEntry? Json.entryUnder?
  rw [hlookup]
  cases hunder : value.under? names "airosdata" with
  | none => rfl
  | some part =>
      cases part with
      | object members =>
          have hkeys := (Json.increasing_of_canonical (hcanonical _ hunder)).keys_nodup
          rw [List.filterMap_filterMap]
          -- An entry is decoded first and its settings are taken then; `Airos.radio?` is both.
          refine Eq.trans ?_ (Json.lookup_filterMap hkeys Airos.radio? ip)
          congr 2
          funext member
          unfold Airos.radio?
          cases (Payload.ofJson? member.2 : Option Airos) with
          | none => rfl
          | some airos => cases h : airos.wireless <;> simp [h]
      | _ => rfl

theorem Status.IsOf.hasBand_iff {status : Status} {value item : Json} {frequency width : Int}
    (h : status.IsOf value) :
    value.HasBand item frequency width ↔
      ∃ (device : Device) (radio : Radio), Payload.ofJson? item = some device ∧
        device.radio? status.radios = some radio ∧ radio.Occupies frequency width := by
  constructor
  · rintro ⟨hdevice, ip, entry, settings, hip, hentry, hsettings, hfigures⟩
    obtain ⟨device, hdevice⟩ := Option.isSome_iff_exists.mp (Payload.isSome_record_iff.mpr hdevice)
    obtain ⟨wireless, hwireless⟩ :=
      Option.isSome_iff_exists.mp (Payload.isSome_record_iff.mpr hsettings.2.2)
    refine ⟨device, .ofWireless wireless, hdevice, ?_,
      (Radio.occupies_ofWireless_iff hwireless).mpr hfigures⟩
    unfold Device.radio?
    rw [Device.ipv4_eq hdevice, hip, Option.bind_some, h.lookup_radios, hentry, Option.bind_some]
    exact Airos.radio?_eq_some_iff.mpr ⟨settings, wireless, hsettings, hwireless, rfl⟩
  · rintro ⟨device, radio, hdevice, hradio, hoccupies⟩
    obtain ⟨ip, hip, hradio⟩ := Option.bind_eq_some_iff.mp hradio
    rw [Device.ipv4_eq hdevice] at hip
    rw [h.lookup_radios] at hradio
    obtain ⟨entry, hentry, hradio⟩ := Option.bind_eq_some_iff.mp hradio
    obtain ⟨settings, wireless, hsettings, hwireless, rfl⟩ := Airos.radio?_eq_some_iff.mp hradio
    exact ⟨Payload.isSome_record_iff.mp (Option.isSome_of_mem hdevice), ip, entry, settings, hip,
      hentry, hsettings, (Radio.occupies_ofWireless_iff hwireless).mp hoccupies⟩

theorem Status.IsOf.frequencyWarning_iff {status : Status} {value : Json}
    (h : status.IsOf value) (thresholds : Thresholds) :
    status.frequencyWarning thresholds = true ↔ ∃ item ∈ TableId.devices.items value,
      ∃ frequency width, value.HasBand item frequency width ∧
        thresholds.StraddledBy frequency width := by
  unfold frequencyWarning
  rw [Radio.overlap_eq_true_iff, h.devices_eq]
  simp only [List.mem_filterMap, h.hasBand_iff]
  constructor
  · rintro ⟨radio, ⟨device, ⟨item, hitem, hdevice⟩, hradio⟩, frequency, width, hoccupies, hstraddled⟩
    exact ⟨item, hitem, frequency, width, ⟨device, radio, hdevice, hradio, hoccupies⟩, hstraddled⟩
  · rintro ⟨item, hitem, frequency, width, ⟨device, radio, hdevice, hradio, hoccupies⟩, hstraddled⟩
    exact ⟨radio, ⟨device, ⟨item, hitem, hdevice⟩, hradio⟩, frequency, width, hoccupies, hstraddled⟩

/-! ## Cells that show a frequency -/

/-- The row of a device with a frequency shows it at the beginning of the last cell. -/
theorem Device.exists_wireless_cell {device : Device} {radios : Radios} {radio : Radio}
    {frequency : Int} (hradio : device.radio? radios = some radio)
    (hfrequency : radio.frequency = some frequency) :
    ∃ cell line, TableId.devices.Under (device.row radios) "wireless" cell ∧ cell.lines = [line] ∧
      Decimal.integer frequency ++ " MHz".toList <+: line.toList := by
  obtain ⟨rest, hrest⟩ := Radio.exists_summary hfrequency
  have hnonempty : radio.summary.isEmpty = false := by
    rw [Bool.eq_false_iff]
    intro hempty
    rw [String.isEmpty_iff.mp hempty] at hrest
    exact absurd hrest.symm (by simp)
  refine ⟨.ofText radio.summary, radio.summary, ⟨"Wireless", ?_⟩, ?_, rest, hrest.symm⟩
  · unfold row
    rw [hradio]
    simp [TableId.columns]
  · unfold Cell.ofText
    rw [hnonempty]
    rfl

/-! ## Loads of a status -/

/-- A load of the status delivered a value, and left the given dashboard when it came to its end. -/
def StatusLoaded (thresholds : Thresholds) (value : Json) (after : Dashboard) : Prop :=
  ∃ deliver before, (deliver .status).exchange.value? (Option Status) = some value ∧
    ((Branch.loadStatus thresholds).run deliver before).finished = true ∧
    ((Branch.loadStatus thresholds).run deliver before).dashboard = after

variable {thresholds : Thresholds} {value : Json} {after : Dashboard}

theorem StatusLoaded.exists_status (h : StatusLoaded thresholds value after) :
    ∃ (status : Status) (olsr2Info : String) (before : Dashboard), status.IsOf value ∧
      after = before.showStatus thresholds status olsr2Info := by
  obtain ⟨deliver, before, hvalue, hfinished, rfl⟩ := h
  obtain ⟨found, olsr2Info, hfound, hshown⟩ := Branch.exists_showStatus hfinished hvalue
  obtain ⟨hstatus, fields, hfields, hlookup⟩ := Json.exists_status_fields hfound
  refine ⟨value.status, olsr2Info, before, ?_, hstatus ▸ hshown⟩
  rw [hfields]
  exact ⟨Fields.elements_eq hlookup "devices",
    Status.lookup_radios_ofFields hlookup fun _ => Exchange.canonical_under? hvalue⟩

theorem StatusLoaded.frequencyWarning_iff (h : StatusLoaded thresholds value after) :
    after.frequencyWarning = true ↔ ∃ item ∈ TableId.devices.items value, ∃ frequency width,
      value.HasBand item frequency width ∧ thresholds.StraddledBy frequency width := by
  obtain ⟨status, olsr2Info, before, hstatus, rfl⟩ := h.exists_status
  rw [Dashboard.showStatus_eq]
  exact hstatus.frequencyWarning_iff thresholds

/-- Every device with a band has a row that shows its frequency. -/
theorem StatusLoaded.exists_row (h : StatusLoaded thresholds value after) {item : Json}
    {frequency width : Int} (hitem : item ∈ TableId.devices.items value)
    (hband : value.HasBand item frequency width) :
    ∃ row ∈ after.devices, ∃ cell line, TableId.devices.Under row "wireless" cell ∧
      cell.lines = [line] ∧ Decimal.integer frequency ++ " MHz".toList <+: line.toList := by
  obtain ⟨status, olsr2Info, before, hstatus, rfl⟩ := h.exists_status
  obtain ⟨device, radio, hdevice, hradio, hoccupies⟩ := hstatus.hasBand_iff.mp hband
  refine ⟨device.row status.radios, ?_, Device.exists_wireless_cell hradio hoccupies.frequency_eq⟩
  rw [Dashboard.showStatus_eq]
  refine (Table.perm_sortBy? _ _).mem_iff.mpr (List.mem_map_of_mem ?_)
  rw [hstatus.devices_eq]
  exact List.mem_filterMap.mpr ⟨item, hitem, hdevice⟩

/-- **The frequency warning.** After a load the warning is shown if and only if the band of some
device straddles the thresholds. So two statuses give the same answer whose devices with a band are
the same, in whatever order and number, and whose radios are the same under the addresses of devices.
Whenever the warning is shown, a row of the devices shows the frequency that it is about. -/
theorem frequencyWarning_iff_exists_band (h : StatusLoaded thresholds value after) :
    (after.frequencyWarning = true ↔ ∃ item ∈ TableId.devices.items value, ∃ frequency width,
      value.HasBand item frequency width ∧ thresholds.StraddledBy frequency width) ∧
    (∀ value' after', StatusLoaded thresholds value' after' →
      (∀ item, item ∈ TableId.devices.items value ∨ item ∈ TableId.devices.items value' →
        ∀ ip ∈ item.deviceAddress?, value.radioEntry? ip = value'.radioEntry? ip) →
      (∀ item, (∃ frequency width, value.HasBand item frequency width) →
        (item ∈ TableId.devices.items value ↔ item ∈ TableId.devices.items value')) →
      after'.frequencyWarning = after.frequencyWarning) ∧
    (after.frequencyWarning = true → ∃ item ∈ TableId.devices.items value, ∃ frequency width,
      value.HasBand item frequency width ∧ thresholds.StraddledBy frequency width ∧
        ∃ row ∈ after.devices, ∃ cell line, TableId.devices.Under row "wireless" cell ∧
          cell.lines = [line] ∧ Decimal.integer frequency ++ " MHz".toList <+: line.toList) := by
  refine ⟨h.frequencyWarning_iff, fun value' after' h' hentries hdevices => ?_, fun hwarning => ?_⟩
  · rw [Bool.eq_iff_iff, h.frequencyWarning_iff, h'.frequencyWarning_iff]
    constructor
    · -- The entries agree under the addresses of both statuses, so the band can be taken across.
      rintro ⟨item, hitem, frequency, width, hband, hstraddled⟩
      have hband := hband.congr fun ip hip => (hentries item (Or.inr hitem) ip hip).symm
      exact ⟨item, (hdevices item ⟨frequency, width, hband⟩).mpr hitem, frequency, width, hband,
        hstraddled⟩
    · rintro ⟨item, hitem, frequency, width, hband, hstraddled⟩
      exact ⟨item, (hdevices item ⟨frequency, width, hband⟩).mp hitem, frequency, width,
        hband.congr (hentries item (Or.inl hitem)), hstraddled⟩
  · obtain ⟨item, hitem, frequency, width, hband, hstraddled⟩ := h.frequencyWarning_iff.mp hwarning
    exact ⟨item, hitem, frequency, width, hband, hstraddled, h.exists_row hitem hband⟩

/-- A node with two devices, of which the second has a radio from 5480 to 5720 MHz. -/
def Script.wideBand : Script :=
  [("status", .answer .ok
    (Text.encode ("\x7b\"devices\":[\x7b\"ipv4\":\"10.0.0.1\"\x7d,[\"10.0.0.2\"]],".toList ++
      "\"airosdata\":\x7b\"10.0.0.2\":[[\"5600 MHz\",240,\"ap\"]]\x7d\x7d".toList)))]

theorem frequencyWarning_iff_exists_band_wideBand :
    let run := (Branch.loadStatus .standard).run (Node.atTest.withScript .wideBand).deliver .initial
    ∃ value, StatusLoaded .standard value run.dashboard ∧ run.dashboard.frequencyWarning = true ∧
      (∃ item ∈ TableId.devices.items value, ∃ frequency width,
        value.HasBand item frequency width ∧
          Thresholds.standard.StraddledBy frequency width ∧
          ∃ row ∈ run.dashboard.devices, ∃ cell line, TableId.devices.Under row "wireless" cell ∧
            cell.lines = [line] ∧ Decimal.integer frequency ++ " MHz".toList <+: line.toList) ∧
      run.dashboard.devices.map (Table.cellContent 7) = ["".toList, "5600 MHz ap".toList] := by
  intro run
  have hrun : (((Node.atTest.withScript .wideBand).deliver .status).exchange.value?
      (Option Status)).isSome = true ∧ run.finished = true ∧
        run.dashboard.frequencyWarning = true ∧
          run.dashboard.devices.map (Table.cellContent 7) = ["".toList, "5600 MHz ap".toList] := by
    decide +kernel
  obtain ⟨hdelivered, hfinished, hwarning, hcells⟩ := hrun
  obtain ⟨value, hvalue⟩ := Option.isSome_iff_exists.mp hdelivered
  have hloaded : StatusLoaded .standard value run.dashboard := ⟨_, _, hvalue, hfinished, rfl⟩
  exact ⟨value, hloaded, hwarning, (frequencyWarning_iff_exists_band hloaded).2.2 hwarning, hcells⟩

end MeshConsole
