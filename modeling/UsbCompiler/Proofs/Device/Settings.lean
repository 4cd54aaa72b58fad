import UsbCompiler.Device
import UsbCompiler.Proofs.Results

/-!
# `UsbCompiler.Proofs.Device.Settings` — the setting that came last counts

The numbers in the headers of a device come from settings, in any order and any number of times. A setting changes
the property that it is about and no other one, so each property has the value that was given to it last. Two of the
properties are bits of one byte; setting them bit by bit comes to the same. What each setting does is said once, and all
else is read off it.

## Contents
- `Device.new_eq_ok_iff`, `Device.Sets` and `set_eq_ok_iff`: a new device, and all that a setting can do.
- `Device.Property` with `Value`, `default` and `kept`, and `Device.value`.
- `Setting.given?` and `value_of_set`: one setting.
- `lastGiven`, `value_of_foldlM` and `value_of_settings`: a row of settings.
- `Setting.mask`, `mask_flagByte` and `flags_of_settings`: the byte that holds the flags.
- `set_bare`, `identifiers_of_foldlM` and `frame_of_new`: what settings do not touch.
-/

namespace UsbCompiler.Device

variable {device next : Device}

/-! ## What a new device is and what a setting does -/

theorem new_eq_ok_iff {vendor product : Int} :
    Device.new vendor product = .ok device
      ↔ ((0 ≤ vendor ∧ vendor < 0x10000) ∧ (0 ≤ product ∧ product < 0x10000))
        ∧ device = { header := { vendor, product, release := 0x0010 } } := by
  unfold Device.new
  split
  · next hrange =>
    rw [Except.ok.injEq]
    exact ⟨fun h => ⟨hrange, h.symm⟩, fun h => h.2.symm⟩
  · next hout => exact ⟨nofun, fun h => absurd h.1 hout⟩

/-- **Settings that are taken.** Each replaces one property of a device, after the check that it has to pass. -/
inductive Sets (device : Device) : Setting → Device → Prop where
  | classCode {value : Int} (hrange : 0 ≤ value ∧ value < 0x100) :
      Sets device (.classCode value) { device with header := { device.header with classCode := value } }
  | subClass {value : Int} (hrange : 0 ≤ value ∧ value < 0x100) :
      Sets device (.subClass value) { device with header := { device.header with subClass := value } }
  | protocol {value : Int} (hrange : 0 ≤ value ∧ value < 0x100) :
      Sets device (.protocol value) { device with header := { device.header with protocol := value } }
  | releaseCode {code : Int} (hrange : 0 ≤ code ∧ code < 0x10000) :
      Sets device (.releaseCode code) { device with header := { device.header with release := code } }
  | releaseText {text : Text} {release : Int} (htext : Release.ofText text = .ok release) :
      Sets device (.releaseText text) { device with header := { device.header with release } }
  | controlPacketSize {size : Int} (hsize : size ∈ Layout.controlSizes) :
      Sets device (.controlPacketSize size) { device with header := { device.header with controlPacketSize := size } }
  | selfPowered (value : Bool) : Sets device (.selfPowered value) { device with selfPowered := value }
  | remoteWakeup (value : Bool) : Sets device (.remoteWakeup value) { device with remoteWakeup := value }
  | maxPower {milliamps : Int} (hrange : 0 ≤ milliamps ∧ milliamps ≤ 500) :
      Sets device (.maxPower milliamps) { device with maxPower := milliamps / 2 }
  | manufacturer (source : StringSource) :
      Sets device (.manufacturer source) { device with header := { device.header with manufacturerString := source } }
  | product (source : StringSource) :
      Sets device (.product source) { device with header := { device.header with productString := source } }
  | serialNumber (source : StringSource) :
      Sets device (.serialNumber source) { device with header := { device.header with serialNumberString := source } }
  | configuration (source : StringSource) :
      Sets device (.configuration source) { device with configurationString := source }

theorem set_eq_ok_iff {setting : Setting} : device.set setting = .ok next ↔ device.Sets setting next := by
  constructor
  · intro h
    cases setting with
    | classCode value | subClass value | protocol value =>
      obtain ⟨_, hcheck, rfl⟩ := map_eq_ok_iff.mp h
      obtain ⟨hrange, rfl⟩ := ByteSetting.check_eq_ok_iff.mp hcheck
      constructor
      exact hrange
    | releaseCode code =>
      obtain ⟨_, hcode, rfl⟩ := map_eq_ok_iff.mp h
      obtain ⟨hrange, rfl⟩ := Release.ofCode_eq_ok_iff.mp hcode
      exact .releaseCode hrange
    | releaseText text =>
      obtain ⟨_, htext, rfl⟩ := map_eq_ok_iff.mp h
      exact .releaseText htext
    | controlPacketSize size | maxPower size =>
      simp only [set] at h
      split at h
      · next hrange =>
        cases h
        constructor
        exact hrange
      · cases h
    | selfPowered value | remoteWakeup value | manufacturer source | product source | serialNumber source
    | configuration source =>
      cases h
      constructor
  · intro h
    cases h with
    | classCode hrange | subClass hrange | protocol hrange =>
      exact map_eq_ok_iff.mpr ⟨_, ByteSetting.check_eq_ok_iff.mpr ⟨hrange, rfl⟩, rfl⟩
    | releaseCode hrange => exact map_eq_ok_iff.mpr ⟨_, Release.ofCode_eq_ok_iff.mpr ⟨hrange, rfl⟩, rfl⟩
    | releaseText htext => exact map_eq_ok_iff.mpr ⟨_, htext, rfl⟩
    | controlPacketSize hrange | maxPower hrange => exact if_pos hrange
    | selfPowered value | remoteWakeup value | manufacturer source | product source | serialNumber source
    | configuration source => rfl

/-! ## Properties -/

/-- The properties of a device that stand in its headers as numbers. -/
inductive Property where
  | classCode
  | subClass
  | protocol
  | release
  | controlPacketSize
  | selfPowered
  | remoteWakeup
  | maxPower
deriving DecidableEq

namespace Property

/-- Two properties are flags, the others are numbers. -/
abbrev Value : Property → Type
  | selfPowered | remoteWakeup => Bool
  | classCode | subClass | protocol | release | controlPacketSize | maxPower => Int

/-- The value that a property has as long as nobody sets it. Power is given in mA. -/
def default : (property : Property) → property.Value
  | classCode => (0 : Int)
  | subClass => (0 : Int)
  | protocol => (0 : Int)
  | release => (0x0010 : Int)
  | controlPacketSize => (8 : Int)
  | selfPowered => false
  | remoteWakeup => false
  | maxPower => (100 : Int)

/-- What is kept of a value. Power is kept in units of 2 mA. -/
def kept : (property : Property) → property.Value → property.Value
  | maxPower, (milliamps : Int) => (milliamps / 2 : Int)
  | _, value => value

end Property

/-- The value that a device keeps of a property. -/
def value (device : Device) : (property : Property) → property.Value
  | .classCode => device.header.classCode
  | .subClass => device.header.subClass
  | .protocol => device.header.protocol
  | .release => device.header.release
  | .controlPacketSize => device.header.controlPacketSize
  | .selfPowered => device.selfPowered
  | .remoteWakeup => device.remoteWakeup
  | .maxPower => device.maxPower

/-! ## One setting -/

/-- The value that a setting gives to a property, if it is about this property. -/
def Setting.given? : Setting → (property : Property) → Option property.Value
  | .classCode value, .classCode => some value
  | .subClass value, .subClass => some value
  | .protocol value, .protocol => some value
  | .releaseCode code, .release => some code
  | .releaseText text, .release => (Release.ofText text).toOption
  | .controlPacketSize size, .controlPacketSize => some size
  | .selfPowered value, .selfPowered => some value
  | .remoteWakeup value, .remoteWakeup => some value
  | .maxPower milliamps, .maxPower => some milliamps
  | _, _ => none

/-- **One setting.** The property that it is about gets the value, and the others keep theirs. -/
theorem value_of_set {setting : Setting} (h : device.set setting = .ok next) (property : Property) :
    next.value property = ((setting.given? property).map property.kept).getD (device.value property) := by
  cases set_eq_ok_iff.mp h with
  | @releaseText text release htext =>
    have hgiven : (Setting.releaseText text).given? .release = some release := by
      show (Release.ofText text).toOption = _
      rw [htext]
      rfl
    cases property with
    | release => rw [hgiven]; rfl
    | classCode | subClass | protocol | controlPacketSize | selfPowered | remoteWakeup | maxPower => rfl
  | classCode _ | subClass _ | protocol _ | releaseCode _ | controlPacketSize _ | selfPowered _ | remoteWakeup _
  | maxPower _ | manufacturer _ | product _ | serialNumber _ | configuration _ => cases property <;> rfl

/-! ## Rows of settings -/

/-- The value that a row of settings gives to a property last. -/
def lastGiven (settings : List Setting) (property : Property) : property.Value :=
  (settings.filterMap (Setting.given? · property)).getLastD property.default

variable {settings : List Setting} {start : Device}

/-- Settings made one after another leave each property with the value that was given last, whatever it was at
    first. -/
theorem value_of_foldlM (h : settings.foldlM Device.set start = .ok device) (property : Property) :
    device.value property
      = ((settings.filterMap (Setting.given? · property)).map property.kept).getLastD (start.value property) := by
  induction settings generalizing start with
  | nil =>
    cases h
    rfl
  | cons setting rest ih =>
    rw [List.foldlM_cons] at h
    obtain ⟨next, hset, hrest⟩ := bind_eq_ok_iff.mp h
    rw [ih hrest, value_of_set hset, List.filterMap_cons]
    cases setting.given? property with
    | none => rfl
    | some value => rw [List.map_cons, List.getLastD_cons, Option.map_some, Option.getD_some]

/-- A new device has the defaults. -/
theorem value_of_new {vendor product : Int} (h : Device.new vendor product = .ok device) (property : Property) :
    device.value property = property.kept property.default := by
  obtain ⟨_, rfl⟩ := new_eq_ok_iff.mp h
  cases property <;> rfl

/-- **Rows of settings.** What is left of a row of settings on a new device is the last one for each property. -/
theorem value_of_settings {vendor product : Int} (hnew : Device.new vendor product = .ok start)
    (h : settings.foldlM Device.set start = .ok device) (property : Property) :
    device.value property = property.kept (lastGiven settings property) := by
  rw [value_of_foldlM h, value_of_new hnew, List.getLastD_map, lastGiven]

/-! ## Flags in one byte -/

/-- The byte of attributes after a setting: a flag sets or clears its bit, and nothing else touches the byte. -/
def Setting.mask : Setting → UInt8 → UInt8
  | .selfPowered true, flags => flags ||| 0x40
  | .selfPowered false, flags => flags &&& ~~~0x40
  | .remoteWakeup true, flags => flags ||| 0x20
  | .remoteWakeup false, flags => flags &&& ~~~0x20
  | _, flags => flags

/-- The byte of attributes with the given flags. -/
def flagByte (selfPowered remoteWakeup : Bool) : UInt8 :=
  0x80 + (if selfPowered then 0x40 else 0) + (if remoteWakeup then 0x20 else 0)

/-- Masking changes one flag, and the other one stays whatever it was. -/
theorem mask_flagByte : ∀ value selfPowered remoteWakeup : Bool,
    (Setting.selfPowered value).mask (flagByte selfPowered remoteWakeup) = flagByte value remoteWakeup
      ∧ (Setting.remoteWakeup value).mask (flagByte selfPowered remoteWakeup) = flagByte selfPowered value := by
  decide

/-- The attributes of the configuration as a byte. -/
def flags (device : Device) : UInt8 := flagByte device.selfPowered device.remoteWakeup

theorem toNat_flags (device : Device) : (device.flags.toNat : Int) = device.attributes := by
  unfold flags attributes
  cases device.selfPowered <;> cases device.remoteWakeup <;> rfl

theorem flags_of_set {setting : Setting} (h : device.set setting = .ok next) :
    next.flags = setting.mask device.flags := by
  cases set_eq_ok_iff.mp h with
  | selfPowered value => exact (mask_flagByte value device.selfPowered device.remoteWakeup).1.symm
  | remoteWakeup value => exact (mask_flagByte value device.selfPowered device.remoteWakeup).2.symm
  | classCode _ | subClass _ | protocol _ | releaseCode _ | releaseText _ | controlPacketSize _ | maxPower _
  | manufacturer _ | product _ | serialNumber _ | configuration _ => rfl

theorem flags_of_foldlM (h : settings.foldlM Device.set start = .ok device) :
    device.flags = settings.foldl (fun flags setting => setting.mask flags) start.flags := by
  induction settings generalizing start with
  | nil =>
    cases h
    rfl
  | cons setting rest ih =>
    rw [List.foldlM_cons] at h
    obtain ⟨next, hset, hrest⟩ := bind_eq_ok_iff.mp h
    rw [ih hrest, flags_of_set hset, List.foldl_cons]

/-- The byte of attributes as a row of settings masks it, one after another. -/
def masked (settings : List Setting) : UInt8 := settings.foldl (fun flags setting => setting.mask flags) 0x80

/-- What is kept as two flags is the byte that is kept bit by bit. -/
theorem flags_of_settings {vendor product : Int} (hnew : Device.new vendor product = .ok start)
    (h : settings.foldlM Device.set start = .ok device) : device.flags = masked settings := by
  obtain ⟨_, rfl⟩ := new_eq_ok_iff.mp hnew
  have hstart : flagByte false false = 0x80 := by decide
  rw [flags_of_foldlM h, masked, ← hstart]
  rfl

/-! ## What settings do not touch -/

/-- The numbers of vendor and product. -/
def identifiers (device : Device) : Int × Int := (device.header.vendor, device.header.product)

/-- A device without its interfaces. -/
def bare (device : Device) : Device := { device with interfaces := [] }

theorem value_bare (device : Device) (property : Property) : device.bare.value property = device.value property := by
  cases property <;> rfl

theorem identifiers_of_set {setting : Setting} (h : device.set setting = .ok next) :
    next.identifiers = device.identifiers := by
  cases set_eq_ok_iff.mp h <;> rfl

/-- Settings do not look at the interfaces. -/
theorem set_bare {setting : Setting} (h : device.set setting = .ok next) :
    device.bare.set setting = .ok next.bare := by
  rw [set_eq_ok_iff] at h ⊢
  cases h <;> constructor <;> assumption

theorem identifiers_of_foldlM (h : settings.foldlM Device.set start = .ok device) :
    device.identifiers = start.identifiers :=
  foldlM_keeps (P := fun device => device.identifiers = start.identifiers)
    (fun _ _ _ hsame hset => (identifiers_of_set hset).trans hsame) rfl h

/-- A new device is known by its identifiers and has no interfaces. -/
theorem frame_of_new {vendor product : Int} (h : Device.new vendor product = .ok device) :
    device.identifiers = (vendor, product) ∧ device.bare = device := by
  obtain ⟨_, rfl⟩ := new_eq_ok_iff.mp h
  exact ⟨rfl, rfl⟩

end UsbCompiler.Device
