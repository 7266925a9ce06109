import SputterOS.Foundation.Numerals
import SputterOS.Logic.CommandParser
import SputterOS.Comms.FrameGrammar

/-!
# The language of accepted lines

A line is what arrived since the last terminator, however long it is. The
grammar of lines is stated on whole texts: two integers and a value, each of
the last two behind a blank. What may stand behind the value is left to the
reader of the grammar. The byte that finds the buffer full is dropped with the
buffer, and the parser accumulates on in the middle of the line.
-/

set_option autoImplicit false

namespace SputterOS.LineGrammar
open Foundation.NumberText SputterOS.Logic SputterOS.FrameGrammar

/-- The text of a line with the numbers that `strtol` and `strtof` read in it,
and what they leave. -/
def Fields (cfg : Cfg) (text : List UInt8) (id device : ℤ) (value : UInt32)
    (rest : List UInt8) : Prop :=
  ∃ idText deviceText valueText, text = idText ++ (deviceText ++ valueText) ∧
    strtol cfg.longBits idText = some (id, []) ∧
    CommandParser.separated deviceText = true ∧
    strtol cfg.longBits deviceText = some (device, []) ∧
    CommandParser.separated valueText = true ∧ strtof cfg.nanBits valueText = some (value, rest)

def Line (cfg : Cfg) (text rest : List UInt8) : Prop :=
  ∃ id device value, Fields cfg text id device value rest ∧
    0 ≤ id ∧ id ≤ cfg.kMaxValidCommandID.toNat

section Grammar

variable (cfg : Cfg)

theorem stops_separated (rest : List UInt8) (h : CommandParser.separated rest = true) :
    Stops rest := by
  intro b hb
  rcases (by simpa [CommandParser.separated, hb] using h : b = 0x20 ∨ b = 0x09) with rfl | rfl
  · decide
  · decide

theorem separated_append (deviceText valueText : List UInt8)
    (h : CommandParser.separated deviceText = true) :
    CommandParser.separated (deviceText ++ valueText) = true := by
  cases deviceText with
  | nil => simp [CommandParser.separated] at h
  | cons b bs => exact h

theorem fields_iff (text rest : List UInt8) (id device : ℤ) (value : UInt32) :
    Fields cfg text id device value rest ↔
      ∃ cursor cursor', strtol cfg.longBits text = some (id, cursor) ∧
        CommandParser.separated cursor = true ∧
        strtol cfg.longBits cursor = some (device, cursor') ∧
        CommandParser.separated cursor' = true ∧ strtof cfg.nanBits cursor' = some (value, rest) := by
  constructor
  · rintro ⟨idText, deviceText, valueText, rfl, hid, hsep, hdevice, hsep', hvalue⟩
    have hsep'' := separated_append deviceText valueText hsep
    exact ⟨deviceText ++ valueText, valueText,
      (strtol_iff _ _ _ _).mpr ⟨idText, rfl, hid, stops_separated _ hsep''⟩, hsep'',
      (strtol_iff _ _ _ _).mpr ⟨deviceText, rfl, hdevice, stops_separated _ hsep'⟩, hsep', hvalue⟩
  · rintro ⟨cursor, cursor', hid, hsep, hdevice, hsep', hvalue⟩
    obtain ⟨idText, rfl, hidText, -⟩ := (strtol_iff _ _ _ _).mp hid
    obtain ⟨deviceText, rfl, hdeviceText, -⟩ := (strtol_iff _ _ _ _).mp hdevice
    refine ⟨idText, deviceText, cursor', rfl, hidText, ?_, hdeviceText, hsep', hvalue⟩
    cases deviceText with
    | nil => cases hdeviceText
    | cons b bs => exact hsep

theorem fields_unique (text rest rest' : List UInt8) (id id' device device' : ℤ)
    (value value' : UInt32) (h : Fields cfg text id device value rest)
    (h' : Fields cfg text id' device' value' rest') :
    id = id' ∧ device = device' ∧ value = value' ∧ rest = rest' := by
  obtain ⟨cursor, cursor', hid, -, hdevice, -, hvalue⟩ := (fields_iff cfg _ _ _ _ _).mp h
  obtain ⟨_, _, hid', -, hdevice', -, hvalue'⟩ := (fields_iff cfg _ _ _ _ _).mp h'
  obtain ⟨rfl, rfl⟩ := Prod.mk.inj (Option.some.inj (hid.symm.trans hid'))
  obtain ⟨rfl, rfl⟩ := Prod.mk.inj (Option.some.inj (hdevice.symm.trans hdevice'))
  obtain ⟨rfl, rfl⟩ := Prod.mk.inj (Option.some.inj (hvalue.symm.trans hvalue'))
  exact ⟨rfl, rfl, rfl, rfl⟩

theorem parseLine_eq_some_iff (text : List UInt8) (cmd : Command) :
    CommandParser.parseLine cfg text = some cmd ↔
      ∃ id device value rest, Fields cfg text id device value rest ∧
        (0 ≤ id ∧ id ≤ cfg.kMaxValidCommandID.toNat) ∧
        cmd = ⟨UInt8.ofInt id, UInt8.ofInt device, value⟩ := by
  simp only [fields_iff]
  unfold CommandParser.parseLine
  simp only [Option.bind_eq_bind, Option.bind_eq_some_iff, guard, Option.pure_def, Prod.exists]
  constructor
  · rintro ⟨id, cursor, hid, _, hsep, device, cursor', hdevice, _, hsep', value, rest, hvalue, _,
      hrange, hcmd⟩
    refine ⟨id, device, value, rest, ⟨cursor, cursor', hid, ?_, hdevice, ?_, hvalue⟩, ?_, ?_⟩
    · by_contra hno
      rw [if_neg hno] at hsep
      cases hsep
    · by_contra hno
      rw [if_neg hno] at hsep'
      cases hsep'
    · by_contra hno
      rw [if_neg hno] at hrange
      cases hrange
    · exact (Option.some.inj hcmd).symm
  · rintro ⟨id, device, value, rest, ⟨cursor, cursor', hid, hsep, hdevice, hsep', hvalue⟩, hrange,
      rfl⟩
    exact ⟨id, cursor, hid, (), if_pos hsep, device, cursor', hdevice, (), if_pos hsep', value, rest,
      hvalue, (), if_pos hrange, rfl⟩

theorem parseLine_isSome_iff (text : List UInt8) :
    (CommandParser.parseLine cfg text).isSome = true ↔ ∃ rest, Line cfg text rest := by
  simp only [Option.isSome_iff_exists, parseLine_eq_some_iff]
  constructor
  · rintro ⟨cmd, id, device, value, rest, hf, hrange, -⟩
    exact ⟨rest, id, device, value, hf, hrange⟩
  · rintro ⟨rest, id, device, value, hf, hrange⟩
    exact ⟨_, id, device, value, rest, hf, hrange, rfl⟩

theorem line_unique (text rest rest' : List UInt8) (h : Line cfg text rest)
    (h' : Line cfg text rest') : rest = rest' := by
  obtain ⟨id, device, value, hf, -⟩ := h
  obtain ⟨id', device', value', hf', -⟩ := h'
  exact (fields_unique cfg text rest rest' _ _ _ _ _ _ hf hf').2.2.2

end Grammar

inductive Call where
  | feedByte (byte : UInt8)
  | getCommand
  | reset

structure State where
  parser : CommandParser
  text : List UInt8

def boot : State := ⟨.initial, []⟩

def step (cfg : Cfg) (s : State) : Call → State
  | .feedByte byte =>
    ⟨(s.parser.feedByte cfg byte).2,
      if CommandParser.isTerminator byte then [] else s.text ++ [byte]⟩
  | .getCommand => ⟨s.parser.getCommand.2, s.text⟩
  | .reset => ⟨s.parser.reset, []⟩

def run (cfg : Cfg) (calls : List Call) : State := calls.foldl (step cfg) boot

section Runs

variable (cfg : Cfg)

theorem step_buf (s : State) (call : Call)
    (h : s.parser.buf = overflowTail (cfg.kMaxLineLen-1) s.text) :
    (step cfg s call).parser.buf = overflowTail (cfg.kMaxLineLen-1) (step cfg s call).text := by
  cases call with
  | feedByte byte =>
    unfold step CommandParser.feedByte
    dsimp only
    by_cases ht : CommandParser.isTerminator byte = true
    · rw [if_pos ht, if_pos ht]
      split_ifs with hempty
      · simpa [overflowTail] using hempty
      · cases CommandParser.parseLine cfg s.parser.buf <;> simp [overflowTail]
    · rw [if_neg ht, if_neg ht, overflowTail_push, ← h]
      by_cases hfull : cfg.kMaxLineLen-1 ≤ s.parser.buf.length
      · rw [if_pos hfull, if_neg (by omega)]
      · rw [if_neg hfull, if_pos (by omega)]
  | getCommand =>
    unfold step CommandParser.getCommand
    dsimp only
    split_ifs <;> exact h
  | reset => simp [step, CommandParser.reset, overflowTail]

theorem run_buf (calls : List Call) :
    (run cfg calls).parser.buf = overflowTail (cfg.kMaxLineLen-1) (run cfg calls).text := by
  induction calls using List.reverseRecOn with
  | nil => simp [run, boot, CommandParser.initial, overflowTail]
  | append_singleton calls call ih =>
    rw [run, List.foldl_append]
    exact step_buf cfg _ call ih

theorem not_line_nil : ¬ ∃ rest, Line cfg [] rest := by
  rw [← parseLine_isSome_iff]
  simp [CommandParser.parseLine, strtol, takeSign]

theorem feedByte_eq_true_iff (p : CommandParser) (byte : UInt8) :
    (p.feedByte cfg byte).1 = true ↔
      CommandParser.isTerminator byte = true ∧ ∃ rest, Line cfg p.buf rest := by
  unfold CommandParser.feedByte
  by_cases ht : CommandParser.isTerminator byte = true
  · rw [if_pos ht]
    split_ifs with hempty
    · simp [List.length_eq_zero_iff.mp hempty, not_line_nil]
    · rw [← parseLine_isSome_iff]
      cases CommandParser.parseLine cfg p.buf <;> simp [ht]
  · rw [if_neg ht]
    split_ifs <;> simp [ht]

end Runs

/-- Whatever may stand behind a value, the parser answers exactly at the ends of
the whole lines, as long as every text that fits the buffer leaves something
allowed behind its value and no text that overflows it leaves a line. -/
theorem whole_lines_iff (cfg : Cfg) (behind : List UInt8 → Prop) (calls : List Call)
    (byte : UInt8) :
    ((((run cfg calls).parser.feedByte cfg byte).1 = true ↔
        CommandParser.isTerminator byte = true ∧
          (run cfg calls).text.length ≤ cfg.kMaxLineLen-1 ∧
          ∃ rest, Line cfg (run cfg calls).text rest ∧ behind rest) ↔
      (CommandParser.isTerminator byte = true →
        if (run cfg calls).text.length ≤ cfg.kMaxLineLen-1 then
          ∀ rest, Line cfg (run cfg calls).text rest → behind rest
        else ∀ rest,
          ¬ Line cfg (overflowTail (cfg.kMaxLineLen-1) (run cfg calls).text) rest)) := by
  rw [feedByte_eq_true_iff, run_buf]
  by_cases ht : CommandParser.isTerminator byte = true
  · by_cases hfit : (run cfg calls).text.length ≤ cfg.kMaxLineLen-1
    · rw [overflowTail_short _ _ hfit, if_pos hfit]
      simp only [ht, hfit, true_and, forall_const]
      constructor
      · intro h rest hline
        obtain ⟨rest', hline', hbehind⟩ := h.mp ⟨rest, hline⟩
        rwa [line_unique cfg _ _ _ hline hline']
      · intro h
        exact ⟨fun ⟨rest, hline⟩ => ⟨rest, hline, h rest hline⟩,
          fun ⟨rest, hline, _⟩ => ⟨rest, hline⟩⟩
    · rw [if_neg hfit]
      simp [ht, hfit]
  · simp [ht]

def plainCfg : Cfg := ⟨64, 255, 32, fun _ => 0x7FC00000, fun _ => []⟩

def overlongCalls : List Call := (List.replicate 64 0x58 ++ ascii "1 0 50").map .feedByte

theorem overlong_tail_accepted :
    ¬ ∀ calls byte, ((run plainCfg calls).parser.feedByte plainCfg byte).1 = true ↔
      CommandParser.isTerminator byte = true ∧
        (run plainCfg calls).text.length ≤ plainCfg.kMaxLineLen-1 ∧
        ∃ rest, Line plainCfg (run plainCfg calls).text rest := by
  intro h
  have htrue : ((run plainCfg overlongCalls).parser.feedByte plainCfg 0x0A).1 = true := by
    decide +kernel
  have hlong : ¬ (run plainCfg overlongCalls).text.length ≤ plainCfg.kMaxLineLen-1 := by
    decide +kernel
  exact hlong ((h overlongCalls 0x0A).mp htrue).2.1

end SputterOS.LineGrammar
