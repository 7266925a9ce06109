import SputterOS.Logic.LineGrammar

/-!
# The fields of an accepted line

The integers of a line are converted to a `long` and then narrowed. The
identifier is compared with a bound in between, the device is not.
-/

set_option autoImplicit false

namespace SputterOS.CommandFields
open Foundation.NumberText SputterOS.Logic SputterOS.LineGrammar

/-- The identifier and the device that a text spells out in front of its value,
of any magnitude. -/
def Written (text : List UInt8) (id device : ℤ) (valueText : List UInt8) : Prop :=
  ∃ idText deviceText, text = idText ++ (deviceText ++ valueText) ∧ Numeral idText id ∧
    CommandParser.separated deviceText = true ∧ Numeral deviceText device ∧
    CommandParser.separated valueText = true

def Accepted (cfg : Cfg) (text : List UInt8) (id device : ℤ) : Prop :=
  ∃ valueText, Written text id device valueText ∧ (strtof cfg.nanBits valueText).isSome = true ∧
    0 ≤ id ∧ id ≤ cfg.kMaxValidCommandID.toNat

/-- A byte completes a command only with the integers written in the buffered
line, and a line whose integers do not fit the fields completes none. -/
def Faithful (cfg : Cfg) (p : CommandParser) (byte : UInt8) : Prop :=
  ((p.feedByte cfg byte).1 = true →
    ∃ id device valueText cmd, Written p.buf id device valueText ∧
      (p.feedByte cfg byte).2.getCommand.1 = some cmd ∧
      (cmd.id.toNat : ℤ) = id ∧ (cmd.targetDevice.toNat : ℤ) = device) ∧
  ∀ id device valueText, Written p.buf id device valueText →
    ¬ ((0 ≤ id ∧ id ≤ 255) ∧ 0 ≤ device ∧ device ≤ 255) → (p.feedByte cfg byte).1 = false

section Integers

variable (longBits : ℕ)

theorem toNat_ofInt (n : ℤ) : ((UInt8.ofInt n).toNat : ℤ) = n % 256 := by
  simp [UInt8.ofInt]
  omega

theorem long_range (hlong : 32 ≤ longBits) : (2 : ℤ)^31 ≤ 2^(longBits-1) := by
  exact_mod_cast Nat.pow_le_pow_right (by decide) (by omega : 31 ≤ longBits-1)

theorem saturate_range (hlong : 32 ≤ longBits) (hi n : ℤ) (hhi : hi ≤ 255) :
    (0 ≤ saturate longBits n ∧ saturate longBits n ≤ hi) ↔ (0 ≤ n ∧ n ≤ hi) := by
  have hpow := long_range longBits hlong
  apply saturate_eq_iff <;> omega

theorem saturate_of_range (hlong : 32 ≤ longBits) (n : ℤ) (h : 0 ≤ n ∧ n ≤ 255) :
    saturate longBits n = n := by
  have hpow := long_range longBits hlong
  unfold saturate
  omega

end Integers

section Fields

variable (cfg : Cfg)

/-- What `strtol` returns for a text is what the text spells out, saturated. -/
theorem fields_written_iff (text rest : List UInt8) (rawId rawDevice : ℤ) (value : UInt32) :
    Fields cfg text rawId rawDevice value rest ↔
      ∃ id device valueText, Written text id device valueText ∧
        rawId = saturate cfg.longBits id ∧ rawDevice = saturate cfg.longBits device ∧
        strtof cfg.nanBits valueText = some (value, rest) := by
  simp only [Fields, strtol_word_iff]
  constructor
  · rintro ⟨idText, deviceText, valueText, rfl, ⟨id, hid, rfl⟩, hsep, ⟨device, hdevice, rfl⟩,
      hsep', hvalue⟩
    exact ⟨id, device, valueText, ⟨idText, deviceText, rfl, hid, hsep, hdevice, hsep'⟩, rfl, rfl,
      hvalue⟩
  · rintro ⟨id, device, valueText, ⟨idText, deviceText, rfl, hid, hsep, hdevice, hsep'⟩, rfl, rfl,
      hvalue⟩
    exact ⟨idText, deviceText, valueText, rfl, ⟨id, hid, rfl⟩, hsep, ⟨device, hdevice, rfl⟩, hsep',
      hvalue⟩

theorem written_digits (idDigits deviceDigits valueText : List UInt8) (hid : idDigits ≠ [])
    (hidDigits : ∀ b ∈ idDigits, isDigit b = true) (hdevice : deviceDigits ≠ [])
    (hdeviceDigits : ∀ b ∈ deviceDigits, isDigit b = true)
    (hsep : CommandParser.separated valueText = true) :
    Written (idDigits ++ ([0x20] ++ deviceDigits ++ valueText)) (digitsVal 10 idDigits)
      (digitsVal 10 deviceDigits) valueText := by
  have hspace : ∀ b ∈ [(0x20 : UInt8)], isSpace b = true := by
    intro b hb
    rw [List.mem_singleton.mp hb]
    decide
  exact ⟨idDigits, [0x20] ++ deviceDigits, rfl, numeral_unsigned [] idDigits nofun hid hidDigits,
    rfl, numeral_unsigned [0x20] deviceDigits hspace hdevice hdeviceDigits, hsep⟩

theorem written_unique (text valueText valueText' : List UInt8) (id id' device device' : ℤ)
    (h : Written text id device valueText) (h' : Written text id' device' valueText') :
    id = id' ∧ device = device' := by
  obtain ⟨idText, deviceText, rfl, hid, hsep, hdevice, hsep'⟩ := h
  obtain ⟨idText', deviceText', heq, hid', hsept, hdevice', hsept'⟩ := h'
  obtain ⟨rfl, hrest⟩ := numeral_unique _ _ _ _ _ _ hid hid'
    (stops_separated _ (separated_append _ _ hsep)) (stops_separated _ (separated_append _ _ hsept))
    heq
  obtain ⟨rfl, -⟩ := numeral_unique _ _ _ _ _ _ hdevice hdevice' (stops_separated _ hsep')
    (stops_separated _ hsept') hrest
  exact ⟨rfl, rfl⟩

theorem parseLine_accepted (hlong : 32 ≤ cfg.longBits) (text : List UInt8) (id device : ℤ)
    (h : Accepted cfg text id device) :
    ∃ value, CommandParser.parseLine cfg text =
      some ⟨UInt8.ofInt id, UInt8.ofInt (saturate cfg.longBits device), value⟩ := by
  obtain ⟨valueText, hw, hvalue, hid⟩ := h
  obtain ⟨⟨value, rest⟩, hvalue⟩ := Option.isSome_iff_exists.mp hvalue
  have hmax := cfg.kMaxValidCommandID.toNat_lt
  have hsat := saturate_of_range cfg.longBits hlong id ⟨hid.1, by omega⟩
  refine ⟨value, (parseLine_eq_some_iff cfg text _).mpr ⟨id, saturate cfg.longBits device, value,
    rest, (fields_written_iff cfg _ _ _ _ _).mpr ?_, hid, rfl⟩⟩
  exact ⟨id, device, valueText, hw, hsat.symm, rfl, hvalue⟩

/-- A byte completes a command exactly at the end of a line with a value and with
an identifier in range, and the device of the command is reduced to a byte. -/
theorem feedByte_accepted (hlong : 32 ≤ cfg.longBits) (p : CommandParser) (byte : UInt8)
    (ht : CommandParser.isTerminator byte = true) (id device : ℤ)
    (h : Accepted cfg p.buf id device) :
    (p.feedByte cfg byte).1 = true ∧ ∃ value, (p.feedByte cfg byte).2.getCommand.1 =
      some ⟨UInt8.ofInt id, UInt8.ofInt (saturate cfg.longBits device), value⟩ := by
  obtain ⟨value, hparse⟩ := parseLine_accepted cfg hlong p.buf id device h
  have hne : ¬ p.buf.length = 0 := by
    intro hnil
    rw [List.length_eq_zero_iff.mp hnil] at hparse
    cases hparse
  unfold CommandParser.feedByte
  rw [if_pos ht, if_neg hne, hparse]
  exact ⟨rfl, value, rfl⟩

theorem accepted_of_feedByte (hlong : 32 ≤ cfg.longBits) (p : CommandParser) (byte : UInt8)
    (h : (p.feedByte cfg byte).1 = true) :
    CommandParser.isTerminator byte = true ∧ ∃ id device, Accepted cfg p.buf id device := by
  obtain ⟨ht, rest, rawId, rawDevice, value, hf, hrange⟩ := (feedByte_eq_true_iff cfg p byte).mp h
  obtain ⟨id, device, valueText, hw, rfl, rfl, hvalue⟩ :=
    (fields_written_iff cfg _ _ _ _ _).mp hf
  have hmax := cfg.kMaxValidCommandID.toNat_lt
  exact ⟨ht, id, device, valueText, hw, by simp [hvalue],
    (saturate_range cfg.longBits hlong _ id (by omega)).mp hrange⟩

end Fields

/-- The fields of the commands are the integers of their lines as long as the
device of every line that is accepted fits a byte. -/
theorem fields_faithful_iff (cfg : Cfg) (hlong : 32 ≤ cfg.longBits) (p : CommandParser)
    (byte : UInt8) :
    Faithful cfg p byte ↔
      (CommandParser.isTerminator byte = true →
        ∀ id device, Accepted cfg p.buf id device → 0 ≤ device ∧ device ≤ 255) := by
  have hmax := cfg.kMaxValidCommandID.toNat_lt
  constructor
  · intro ⟨hfields, hreject⟩ ht id device hacc
    by_contra hbad
    have htrue := (feedByte_accepted cfg hlong p byte ht id device hacc).1
    obtain ⟨valueText, hw, -⟩ := hacc
    have hfalse := hreject id device valueText hw (fun hfit => hbad hfit.2)
    rw [hfalse] at htrue
    cases htrue
  · intro h
    refine ⟨fun htrue => ?_, fun id device valueText hw hbad => ?_⟩
    · obtain ⟨ht, id, device, hacc⟩ := accepted_of_feedByte cfg hlong p byte htrue
      obtain ⟨-, value, hcmd⟩ := feedByte_accepted cfg hlong p byte ht id device hacc
      have hdevice := h ht id device hacc
      obtain ⟨valueText, hw, -, hid⟩ := hacc
      refine ⟨id, device, valueText, _, hw, hcmd, ?_, ?_⟩
      · rw [toNat_ofInt]
        omega
      · rw [toNat_ofInt, saturate_of_range cfg.longBits hlong device hdevice]
        omega
    · by_contra htrue
      rw [Bool.not_eq_false] at htrue
      obtain ⟨ht, id', device', hacc⟩ := accepted_of_feedByte cfg hlong p byte htrue
      have hdevice := h ht id' device' hacc
      obtain ⟨valueText', hw', -, hid⟩ := hacc
      obtain ⟨rfl, rfl⟩ := written_unique _ _ _ _ _ _ _ hw hw'
      exact hbad ⟨⟨hid.1, by omega⟩, hdevice⟩

def holding (line : String) : CommandParser := { CommandParser.initial with buf := ascii line }

theorem device_written : Written (ascii "1 7 50") 1 7 (ascii " 50") :=
  written_digits (ascii "1") (ascii "7") (ascii " 50") (by decide) (by decide +kernel) (by decide)
    (by decide +kernel) (by decide)

theorem fields_faithful_line : Faithful plainCfg (holding "1 7 50") 0x0A := by
  refine (fields_faithful_iff plainCfg (by decide) (holding "1 7 50") 0x0A).mpr ?_
  rintro - id device ⟨valueText, hw, -⟩
  obtain ⟨rfl, rfl⟩ := written_unique _ _ _ _ _ _ _ hw device_written
  decide

theorem wide_written : Written (ascii "1 256 50") 1 256 (ascii " 50") :=
  written_digits (ascii "1") (ascii "256") (ascii " 50") (by decide) (by decide +kernel)
    (by decide) (by decide +kernel) (by decide)

/-- The device 256 becomes the device 0. -/
theorem device_reduced : ¬ ∀ p byte, Faithful plainCfg p byte := by
  intro h
  have htrue : ((holding "1 256 50").feedByte plainCfg 0x0A).1 = true := by decide +kernel
  have hfalse := (h (holding "1 256 50") 0x0A).2 1 256 _ wide_written (by decide)
  rw [hfalse] at htrue
  cases htrue

end SputterOS.CommandFields
