/-
The tables of Unicode 15.0 for lower case and case folding.

A row of a table maps a run of characters, every one or every second, to
a run as long, each with the same characters behind it; the rows stand in
blocks, so that a character is looked for in one of them. Folding is the
lower case but for the characters of `foldTable`. What is said of all
characters is checked row against row (`Row.apart`), and character by
character only where a row meets the other table: what results from
folding folds to itself (`foldCode_foldCode`), and the lower case of a
character folds as the character does (`foldCode_lowerCode`).
-/
import Mathlib.Data.List.Basic

namespace CaseFolding

-- ================================================================ tables

/-- Every `step`-th character from `first` to `last`, with the image of
the first and what stands behind each image. -/
structure Row where
  first : Nat
  last : Nat
  step : Nat
  target : Nat
  tail : List Nat
  deriving DecidableEq

/-- The rows for some of the characters from `first` to `last`. -/
structure Block where
  first : Nat
  last : Nat
  rows : List Row

namespace Row

/-- The character is one of the row. -/
def covers (row : Row) (n : Nat) : Bool :=
  Nat.ble row.first n && Nat.ble n row.last
    && Nat.beq ((n - row.first) % row.step) 0

theorem covers_iff {row : Row} {n : Nat} :
    row.covers n = true
      ↔ row.first ≤ n ∧ n ≤ row.last ∧ (n - row.first) % row.step = 0 := by
  unfold covers
  rw [Bool.and_eq_true, Bool.and_eq_true, Nat.ble_eq, Nat.ble_eq,
    Nat.beq_eq, and_assoc]

/-- The first of what the row maps a character to. -/
def map (row : Row) (n : Nat) : Nat := row.target + (n - row.first)

/-- The images of the row. -/
def image (row : Row) : Row :=
  ⟨row.target, row.target + (row.last - row.first), row.step, 0, []⟩

/-- The rows have no character in common: one ends before the other
begins, or they alternate. -/
def apart (row other : Row) : Bool :=
  Nat.blt row.last other.first || Nat.blt other.last row.first
    || ((Nat.beq row.step 2 || Nat.beq row.first row.last)
      && (Nat.beq other.step 2 || Nat.beq other.first other.last)
      && !Nat.beq (row.first % 2) (other.first % 2))

theorem image_covers {row : Row} {n : Nat} (h : row.covers n = true) :
    row.image.covers (row.map n) = true := by
  obtain ⟨hfirst, hlast, hstep⟩ := covers_iff.mp h
  refine covers_iff.mpr ⟨?_, ?_, ?_⟩
  · show row.target ≤ row.target + (n - row.first)
    omega
  · show row.target + (n - row.first) ≤ row.target + (row.last - row.first)
    omega
  · show (row.target + (n - row.first) - row.target) % row.step = 0
    rw [Nat.add_sub_cancel_left]
    exact hstep

/-- A row of every second character, or of one, keeps to one parity. -/
theorem parity_of_covers {row : Row} {n : Nat}
    (hstep : row.step = 2 ∨ row.first = row.last)
    (h : row.covers n = true) : n % 2 = row.first % 2 := by
  obtain ⟨hfirst, hlast, hmod⟩ := covers_iff.mp h
  rcases hstep with hstep | hone
  · rw [hstep] at hmod
    omega
  · have : n = row.first := by omega
    rw [this]

theorem not_covers_of_apart {row other : Row} {n : Nat}
    (happart : row.apart other = true) (h : row.covers n = true) :
    other.covers n = false := by
  rw [← Bool.not_eq_true]
  intro hother
  have hrow := covers_iff.mp h
  have hother' := covers_iff.mp hother
  simp only [apart, Bool.or_eq_true, Bool.and_eq_true, Nat.blt_eq,
    Nat.beq_eq, Bool.not_eq_true', ← Bool.not_eq_true] at happart
  rcases happart with (hlt | hlt) | ⟨⟨hstep, hstep'⟩, hparity⟩
  · omega
  · omega
  · exact hparity ((parity_of_covers hstep h).symm.trans
      (parity_of_covers hstep' hother))

end Row

/-- The images of a character in the first of the rows that has it. -/
def findRow : List Row → Nat → Option (List Nat)
  | [], _ => none
  | row :: rows, n =>
      bif row.covers n then some (row.map n :: row.tail) else findRow rows n

/-- The images of a character, if its block has it. -/
def find : List Block → Nat → Option (List Nat)
  | [], _ => none
  | block :: blocks, n =>
      bif Nat.ble block.first n && Nat.ble n block.last then
        findRow block.rows n
      else find blocks n

/-- The rows of a table. -/
def rowsOf (blocks : List Block) : List Row := blocks.flatMap Block.rows

/-- No character of the row is found in the table. -/
def clear (row : Row) : List Block → Bool
  | [] => true
  | block :: blocks =>
      (Nat.blt row.last block.first || Nat.blt block.last row.first
        || block.rows.all row.apart)
      && clear row blocks

theorem findRow_some {rows : List Row} {n : Nat} {codes : List Nat}
    (h : findRow rows n = some codes) :
    ∃ row ∈ rows, row.covers n = true ∧ codes = row.map n :: row.tail := by
  induction rows with
  | nil => cases h
  | cons row rows ih =>
      unfold findRow at h
      cases hrow : row.covers n with
      | true =>
          rw [hrow, cond_true] at h
          exact ⟨row, List.mem_cons_self, hrow, (Option.some.inj h).symm⟩
      | false =>
          rw [hrow, cond_false] at h
          obtain ⟨other, hmem, hother⟩ := ih h
          exact ⟨other, List.mem_cons_of_mem _ hmem, hother⟩

theorem find_some {blocks : List Block} {n : Nat} {codes : List Nat}
    (h : find blocks n = some codes) :
    ∃ row ∈ rowsOf blocks,
      row.covers n = true ∧ codes = row.map n :: row.tail := by
  induction blocks with
  | nil => cases h
  | cons block blocks ih =>
      unfold find at h
      cases hin : Nat.ble block.first n && Nat.ble n block.last with
      | true =>
          rw [hin, cond_true] at h
          obtain ⟨row, hmem, hrow⟩ := findRow_some h
          exact ⟨row, List.mem_append_left _ hmem, hrow⟩
      | false =>
          rw [hin, cond_false] at h
          obtain ⟨row, hmem, hrow⟩ := ih h
          exact ⟨row, List.mem_append_right _ hmem, hrow⟩

theorem find_of_clear {blocks : List Block} {row : Row} {n : Nat}
    (hclear : clear row blocks = true) (h : row.covers n = true) :
    find blocks n = none := by
  obtain ⟨hfirst, hlast, -⟩ := Row.covers_iff.mp h
  induction blocks with
  | nil => rfl
  | cons block blocks ih =>
      unfold clear at hclear
      rw [Bool.and_eq_true, Bool.or_eq_true, Bool.or_eq_true, Nat.blt_eq,
        Nat.blt_eq] at hclear
      unfold find
      cases hin : Nat.ble block.first n && Nat.ble n block.last with
      | false =>
          rw [cond_false]
          exact ih hclear.2
      | true =>
          rw [Bool.and_eq_true, Nat.ble_eq, Nat.ble_eq] at hin
          rw [cond_true]
          rcases hclear.1 with (hbefore | hafter) | happart
          · omega
          · omega
          · cases hfind : findRow block.rows n with
            | none => rfl
            | some codes =>
                obtain ⟨other, hmem, hother, -⟩ := findRow_some hfind
                rw [Row.not_covers_of_apart
                  (List.all_eq_true.mp happart other hmem) h] at hother
                cases hother

/-- The lower case of Unicode 15.0. -/
def lowerTable : List Block :=
  [⟨0x41, 0x187,
      [⟨0x41, 0x5A, 1, 0x61, []⟩, ⟨0xC0, 0xD6, 1, 0xE0, []⟩,
        ⟨0xD8, 0xDE, 1, 0xF8, []⟩, ⟨0x100, 0x12E, 2, 0x101, []⟩,
        ⟨0x130, 0x130, 1, 0x69, [0x307]⟩, ⟨0x132, 0x136, 2, 0x133, []⟩,
        ⟨0x139, 0x147, 2, 0x13A, []⟩, ⟨0x14A, 0x176, 2, 0x14B, []⟩,
        ⟨0x178, 0x178, 1, 0xFF, []⟩, ⟨0x179, 0x17D, 2, 0x17A, []⟩,
        ⟨0x181, 0x181, 1, 0x253, []⟩, ⟨0x182, 0x184, 2, 0x183, []⟩,
        ⟨0x186, 0x186, 1, 0x254, []⟩, ⟨0x187, 0x187, 1, 0x188, []⟩]⟩,
    ⟨0x189, 0x19F,
      [⟨0x189, 0x18A, 1, 0x256, []⟩, ⟨0x18B, 0x18B, 1, 0x18C, []⟩,
        ⟨0x18E, 0x18E, 1, 0x1DD, []⟩, ⟨0x18F, 0x18F, 1, 0x259, []⟩,
        ⟨0x190, 0x190, 1, 0x25B, []⟩, ⟨0x191, 0x191, 1, 0x192, []⟩,
        ⟨0x193, 0x193, 1, 0x260, []⟩, ⟨0x194, 0x194, 1, 0x263, []⟩,
        ⟨0x196, 0x196, 1, 0x269, []⟩, ⟨0x197, 0x197, 1, 0x268, []⟩,
        ⟨0x198, 0x198, 1, 0x199, []⟩, ⟨0x19C, 0x19C, 1, 0x26F, []⟩,
        ⟨0x19D, 0x19D, 1, 0x272, []⟩, ⟨0x19F, 0x19F, 1, 0x275, []⟩]⟩,
    ⟨0x1A0, 0x1C5,
      [⟨0x1A0, 0x1A4, 2, 0x1A1, []⟩, ⟨0x1A6, 0x1A6, 1, 0x280, []⟩,
        ⟨0x1A7, 0x1A7, 1, 0x1A8, []⟩, ⟨0x1A9, 0x1A9, 1, 0x283, []⟩,
        ⟨0x1AC, 0x1AC, 1, 0x1AD, []⟩, ⟨0x1AE, 0x1AE, 1, 0x288, []⟩,
        ⟨0x1AF, 0x1AF, 1, 0x1B0, []⟩, ⟨0x1B1, 0x1B2, 1, 0x28A, []⟩,
        ⟨0x1B3, 0x1B5, 2, 0x1B4, []⟩, ⟨0x1B7, 0x1B7, 1, 0x292, []⟩,
        ⟨0x1B8, 0x1B8, 1, 0x1B9, []⟩, ⟨0x1BC, 0x1BC, 1, 0x1BD, []⟩,
        ⟨0x1C4, 0x1C4, 1, 0x1C6, []⟩, ⟨0x1C5, 0x1C5, 1, 0x1C6, []⟩]⟩,
    ⟨0x1C7, 0x23B,
      [⟨0x1C7, 0x1C7, 1, 0x1C9, []⟩, ⟨0x1C8, 0x1C8, 1, 0x1C9, []⟩,
        ⟨0x1CA, 0x1CA, 1, 0x1CC, []⟩, ⟨0x1CB, 0x1DB, 2, 0x1CC, []⟩,
        ⟨0x1DE, 0x1EE, 2, 0x1DF, []⟩, ⟨0x1F1, 0x1F1, 1, 0x1F3, []⟩,
        ⟨0x1F2, 0x1F4, 2, 0x1F3, []⟩, ⟨0x1F6, 0x1F6, 1, 0x195, []⟩,
        ⟨0x1F7, 0x1F7, 1, 0x1BF, []⟩, ⟨0x1F8, 0x21E, 2, 0x1F9, []⟩,
        ⟨0x220, 0x220, 1, 0x19E, []⟩, ⟨0x222, 0x232, 2, 0x223, []⟩,
        ⟨0x23A, 0x23A, 1, 0x2C65, []⟩, ⟨0x23B, 0x23B, 1, 0x23C, []⟩]⟩,
    ⟨0x23D, 0x38F,
      [⟨0x23D, 0x23D, 1, 0x19A, []⟩, ⟨0x23E, 0x23E, 1, 0x2C66, []⟩,
        ⟨0x241, 0x241, 1, 0x242, []⟩, ⟨0x243, 0x243, 1, 0x180, []⟩,
        ⟨0x244, 0x244, 1, 0x289, []⟩, ⟨0x245, 0x245, 1, 0x28C, []⟩,
        ⟨0x246, 0x24E, 2, 0x247, []⟩, ⟨0x370, 0x372, 2, 0x371, []⟩,
        ⟨0x376, 0x376, 1, 0x377, []⟩, ⟨0x37F, 0x37F, 1, 0x3F3, []⟩,
        ⟨0x386, 0x386, 1, 0x3AC, []⟩, ⟨0x388, 0x38A, 1, 0x3AD, []⟩,
        ⟨0x38C, 0x38C, 1, 0x3CC, []⟩, ⟨0x38E, 0x38F, 1, 0x3CD, []⟩]⟩,
    ⟨0x391, 0x4C0,
      [⟨0x391, 0x3A1, 1, 0x3B1, []⟩, ⟨0x3A3, 0x3AB, 1, 0x3C3, []⟩,
        ⟨0x3CF, 0x3CF, 1, 0x3D7, []⟩, ⟨0x3D8, 0x3EE, 2, 0x3D9, []⟩,
        ⟨0x3F4, 0x3F4, 1, 0x3B8, []⟩, ⟨0x3F7, 0x3F7, 1, 0x3F8, []⟩,
        ⟨0x3F9, 0x3F9, 1, 0x3F2, []⟩, ⟨0x3FA, 0x3FA, 1, 0x3FB, []⟩,
        ⟨0x3FD, 0x3FF, 1, 0x37B, []⟩, ⟨0x400, 0x40F, 1, 0x450, []⟩,
        ⟨0x410, 0x42F, 1, 0x430, []⟩, ⟨0x460, 0x480, 2, 0x461, []⟩,
        ⟨0x48A, 0x4BE, 2, 0x48B, []⟩, ⟨0x4C0, 0x4C0, 1, 0x4CF, []⟩]⟩,
    ⟨0x4C1, 0x1F0F,
      [⟨0x4C1, 0x4CD, 2, 0x4C2, []⟩, ⟨0x4D0, 0x52E, 2, 0x4D1, []⟩,
        ⟨0x531, 0x556, 1, 0x561, []⟩, ⟨0x10A0, 0x10C5, 1, 0x2D00, []⟩,
        ⟨0x10C7, 0x10C7, 1, 0x2D27, []⟩, ⟨0x10CD, 0x10CD, 1, 0x2D2D, []⟩,
        ⟨0x13A0, 0x13EF, 1, 0xAB70, []⟩, ⟨0x13F0, 0x13F5, 1, 0x13F8, []⟩,
        ⟨0x1C90, 0x1CBA, 1, 0x10D0, []⟩, ⟨0x1CBD, 0x1CBF, 1, 0x10FD, []⟩,
        ⟨0x1E00, 0x1E94, 2, 0x1E01, []⟩, ⟨0x1E9E, 0x1E9E, 1, 0xDF, []⟩,
        ⟨0x1EA0, 0x1EFE, 2, 0x1EA1, []⟩, ⟨0x1F08, 0x1F0F, 1, 0x1F00, []⟩]⟩,
    ⟨0x1F18, 0x1FCC,
      [⟨0x1F18, 0x1F1D, 1, 0x1F10, []⟩, ⟨0x1F28, 0x1F2F, 1, 0x1F20, []⟩,
        ⟨0x1F38, 0x1F3F, 1, 0x1F30, []⟩, ⟨0x1F48, 0x1F4D, 1, 0x1F40, []⟩,
        ⟨0x1F59, 0x1F5F, 2, 0x1F51, []⟩, ⟨0x1F68, 0x1F6F, 1, 0x1F60, []⟩,
        ⟨0x1F88, 0x1F8F, 1, 0x1F80, []⟩, ⟨0x1F98, 0x1F9F, 1, 0x1F90, []⟩,
        ⟨0x1FA8, 0x1FAF, 1, 0x1FA0, []⟩, ⟨0x1FB8, 0x1FB9, 1, 0x1FB0, []⟩,
        ⟨0x1FBA, 0x1FBB, 1, 0x1F70, []⟩, ⟨0x1FBC, 0x1FBC, 1, 0x1FB3, []⟩,
        ⟨0x1FC8, 0x1FCB, 1, 0x1F72, []⟩, ⟨0x1FCC, 0x1FCC, 1, 0x1FC3, []⟩]⟩,
    ⟨0x1FD8, 0x2183,
      [⟨0x1FD8, 0x1FD9, 1, 0x1FD0, []⟩, ⟨0x1FDA, 0x1FDB, 1, 0x1F76, []⟩,
        ⟨0x1FE8, 0x1FE9, 1, 0x1FE0, []⟩, ⟨0x1FEA, 0x1FEB, 1, 0x1F7A, []⟩,
        ⟨0x1FEC, 0x1FEC, 1, 0x1FE5, []⟩, ⟨0x1FF8, 0x1FF9, 1, 0x1F78, []⟩,
        ⟨0x1FFA, 0x1FFB, 1, 0x1F7C, []⟩, ⟨0x1FFC, 0x1FFC, 1, 0x1FF3, []⟩,
        ⟨0x2126, 0x2126, 1, 0x3C9, []⟩, ⟨0x212A, 0x212A, 1, 0x6B, []⟩,
        ⟨0x212B, 0x212B, 1, 0xE5, []⟩, ⟨0x2132, 0x2132, 1, 0x214E, []⟩,
        ⟨0x2160, 0x216F, 1, 0x2170, []⟩, ⟨0x2183, 0x2183, 1, 0x2184, []⟩]⟩,
    ⟨0x24B6, 0x2C7F,
      [⟨0x24B6, 0x24CF, 1, 0x24D0, []⟩, ⟨0x2C00, 0x2C2F, 1, 0x2C30, []⟩,
        ⟨0x2C60, 0x2C60, 1, 0x2C61, []⟩, ⟨0x2C62, 0x2C62, 1, 0x26B, []⟩,
        ⟨0x2C63, 0x2C63, 1, 0x1D7D, []⟩, ⟨0x2C64, 0x2C64, 1, 0x27D, []⟩,
        ⟨0x2C67, 0x2C6B, 2, 0x2C68, []⟩, ⟨0x2C6D, 0x2C6D, 1, 0x251, []⟩,
        ⟨0x2C6E, 0x2C6E, 1, 0x271, []⟩, ⟨0x2C6F, 0x2C6F, 1, 0x250, []⟩,
        ⟨0x2C70, 0x2C70, 1, 0x252, []⟩, ⟨0x2C72, 0x2C72, 1, 0x2C73, []⟩,
        ⟨0x2C75, 0x2C75, 1, 0x2C76, []⟩, ⟨0x2C7E, 0x2C7F, 1, 0x23F, []⟩]⟩,
    ⟨0x2C80, 0xA7A8,
      [⟨0x2C80, 0x2CE2, 2, 0x2C81, []⟩, ⟨0x2CEB, 0x2CED, 2, 0x2CEC, []⟩,
        ⟨0x2CF2, 0x2CF2, 1, 0x2CF3, []⟩, ⟨0xA640, 0xA66C, 2, 0xA641, []⟩,
        ⟨0xA680, 0xA69A, 2, 0xA681, []⟩, ⟨0xA722, 0xA72E, 2, 0xA723, []⟩,
        ⟨0xA732, 0xA76E, 2, 0xA733, []⟩, ⟨0xA779, 0xA77B, 2, 0xA77A, []⟩,
        ⟨0xA77D, 0xA77D, 1, 0x1D79, []⟩, ⟨0xA77E, 0xA786, 2, 0xA77F, []⟩,
        ⟨0xA78B, 0xA78B, 1, 0xA78C, []⟩, ⟨0xA78D, 0xA78D, 1, 0x265, []⟩,
        ⟨0xA790, 0xA792, 2, 0xA791, []⟩, ⟨0xA796, 0xA7A8, 2, 0xA797, []⟩]⟩,
    ⟨0xA7AA, 0xA7C9,
      [⟨0xA7AA, 0xA7AA, 1, 0x266, []⟩, ⟨0xA7AB, 0xA7AB, 1, 0x25C, []⟩,
        ⟨0xA7AC, 0xA7AC, 1, 0x261, []⟩, ⟨0xA7AD, 0xA7AD, 1, 0x26C, []⟩,
        ⟨0xA7AE, 0xA7AE, 1, 0x26A, []⟩, ⟨0xA7B0, 0xA7B0, 1, 0x29E, []⟩,
        ⟨0xA7B1, 0xA7B1, 1, 0x287, []⟩, ⟨0xA7B2, 0xA7B2, 1, 0x29D, []⟩,
        ⟨0xA7B3, 0xA7B3, 1, 0xAB53, []⟩, ⟨0xA7B4, 0xA7C2, 2, 0xA7B5, []⟩,
        ⟨0xA7C4, 0xA7C4, 1, 0xA794, []⟩, ⟨0xA7C5, 0xA7C5, 1, 0x282, []⟩,
        ⟨0xA7C6, 0xA7C6, 1, 0x1D8E, []⟩, ⟨0xA7C7, 0xA7C9, 2, 0xA7C8, []⟩]⟩,
    ⟨0xA7D0, 0x1E921,
      [⟨0xA7D0, 0xA7D0, 1, 0xA7D1, []⟩, ⟨0xA7D6, 0xA7D8, 2, 0xA7D7, []⟩,
        ⟨0xA7F5, 0xA7F5, 1, 0xA7F6, []⟩, ⟨0xFF21, 0xFF3A, 1, 0xFF41, []⟩,
        ⟨0x10400, 0x10427, 1, 0x10428, []⟩,
        ⟨0x104B0, 0x104D3, 1, 0x104D8, []⟩,
        ⟨0x10570, 0x1057A, 1, 0x10597, []⟩,
        ⟨0x1057C, 0x1058A, 1, 0x105A3, []⟩,
        ⟨0x1058C, 0x10592, 1, 0x105B3, []⟩,
        ⟨0x10594, 0x10595, 1, 0x105BB, []⟩,
        ⟨0x10C80, 0x10CB2, 1, 0x10CC0, []⟩,
        ⟨0x118A0, 0x118BF, 1, 0x118C0, []⟩,
        ⟨0x16E40, 0x16E5F, 1, 0x16E60, []⟩,
        ⟨0x1E900, 0x1E921, 1, 0x1E922, []⟩]⟩]

/-- Where folding is not the lower case. -/
def foldTable : List Block :=
  [⟨0xB5, 0x3D0,
      [⟨0xB5, 0xB5, 1, 0x3BC, []⟩, ⟨0xDF, 0xDF, 1, 0x73, [0x73]⟩,
        ⟨0x149, 0x149, 1, 0x2BC, [0x6E]⟩, ⟨0x17F, 0x17F, 1, 0x73, []⟩,
        ⟨0x1F0, 0x1F0, 1, 0x6A, [0x30C]⟩, ⟨0x345, 0x345, 1, 0x3B9, []⟩,
        ⟨0x390, 0x390, 1, 0x3B9, [0x308, 0x301]⟩,
        ⟨0x3B0, 0x3B0, 1, 0x3C5, [0x308, 0x301]⟩,
        ⟨0x3C2, 0x3C2, 1, 0x3C3, []⟩, ⟨0x3D0, 0x3D0, 1, 0x3B2, []⟩]⟩,
    ⟨0x3D1, 0x1C80,
      [⟨0x3D1, 0x3D1, 1, 0x3B8, []⟩, ⟨0x3D5, 0x3D5, 1, 0x3C6, []⟩,
        ⟨0x3D6, 0x3D6, 1, 0x3C0, []⟩, ⟨0x3F0, 0x3F0, 1, 0x3BA, []⟩,
        ⟨0x3F1, 0x3F1, 1, 0x3C1, []⟩, ⟨0x3F5, 0x3F5, 1, 0x3B5, []⟩,
        ⟨0x587, 0x587, 1, 0x565, [0x582]⟩, ⟨0x13A0, 0x13F5, 1, 0x13A0, []⟩,
        ⟨0x13F8, 0x13FD, 1, 0x13F0, []⟩, ⟨0x1C80, 0x1C80, 1, 0x432, []⟩]⟩,
    ⟨0x1C81, 0x1E98,
      [⟨0x1C81, 0x1C81, 1, 0x434, []⟩, ⟨0x1C82, 0x1C82, 1, 0x43E, []⟩,
        ⟨0x1C83, 0x1C84, 1, 0x441, []⟩, ⟨0x1C85, 0x1C85, 1, 0x442, []⟩,
        ⟨0x1C86, 0x1C86, 1, 0x44A, []⟩, ⟨0x1C87, 0x1C87, 1, 0x463, []⟩,
        ⟨0x1C88, 0x1C88, 1, 0xA64B, []⟩, ⟨0x1E96, 0x1E96, 1, 0x68, [0x331]⟩,
        ⟨0x1E97, 0x1E97, 1, 0x74, [0x308]⟩,
        ⟨0x1E98, 0x1E98, 1, 0x77, [0x30A]⟩]⟩,
    ⟨0x1E99, 0x1F8F,
      [⟨0x1E99, 0x1E99, 1, 0x79, [0x30A]⟩,
        ⟨0x1E9A, 0x1E9A, 1, 0x61, [0x2BE]⟩, ⟨0x1E9B, 0x1E9B, 1, 0x1E61, []⟩,
        ⟨0x1E9E, 0x1E9E, 1, 0x73, [0x73]⟩,
        ⟨0x1F50, 0x1F50, 1, 0x3C5, [0x313]⟩,
        ⟨0x1F52, 0x1F52, 1, 0x3C5, [0x313, 0x300]⟩,
        ⟨0x1F54, 0x1F54, 1, 0x3C5, [0x313, 0x301]⟩,
        ⟨0x1F56, 0x1F56, 1, 0x3C5, [0x313, 0x342]⟩,
        ⟨0x1F80, 0x1F87, 1, 0x1F00, [0x3B9]⟩,
        ⟨0x1F88, 0x1F8F, 1, 0x1F00, [0x3B9]⟩]⟩,
    ⟨0x1F90, 0x1FBC,
      [⟨0x1F90, 0x1F97, 1, 0x1F20, [0x3B9]⟩,
        ⟨0x1F98, 0x1F9F, 1, 0x1F20, [0x3B9]⟩,
        ⟨0x1FA0, 0x1FA7, 1, 0x1F60, [0x3B9]⟩,
        ⟨0x1FA8, 0x1FAF, 1, 0x1F60, [0x3B9]⟩,
        ⟨0x1FB2, 0x1FB2, 1, 0x1F70, [0x3B9]⟩,
        ⟨0x1FB3, 0x1FB3, 1, 0x3B1, [0x3B9]⟩,
        ⟨0x1FB4, 0x1FB4, 1, 0x3AC, [0x3B9]⟩,
        ⟨0x1FB6, 0x1FB6, 1, 0x3B1, [0x342]⟩,
        ⟨0x1FB7, 0x1FB7, 1, 0x3B1, [0x342, 0x3B9]⟩,
        ⟨0x1FBC, 0x1FBC, 1, 0x3B1, [0x3B9]⟩]⟩,
    ⟨0x1FBE, 0x1FD6,
      [⟨0x1FBE, 0x1FBE, 1, 0x3B9, []⟩, ⟨0x1FC2, 0x1FC2, 1, 0x1F74, [0x3B9]⟩,
        ⟨0x1FC3, 0x1FC3, 1, 0x3B7, [0x3B9]⟩,
        ⟨0x1FC4, 0x1FC4, 1, 0x3AE, [0x3B9]⟩,
        ⟨0x1FC6, 0x1FC6, 1, 0x3B7, [0x342]⟩,
        ⟨0x1FC7, 0x1FC7, 1, 0x3B7, [0x342, 0x3B9]⟩,
        ⟨0x1FCC, 0x1FCC, 1, 0x3B7, [0x3B9]⟩,
        ⟨0x1FD2, 0x1FD2, 1, 0x3B9, [0x308, 0x300]⟩,
        ⟨0x1FD3, 0x1FD3, 1, 0x3B9, [0x308, 0x301]⟩,
        ⟨0x1FD6, 0x1FD6, 1, 0x3B9, [0x342]⟩]⟩,
    ⟨0x1FD7, 0x1FF6,
      [⟨0x1FD7, 0x1FD7, 1, 0x3B9, [0x308, 0x342]⟩,
        ⟨0x1FE2, 0x1FE2, 1, 0x3C5, [0x308, 0x300]⟩,
        ⟨0x1FE3, 0x1FE3, 1, 0x3C5, [0x308, 0x301]⟩,
        ⟨0x1FE4, 0x1FE4, 1, 0x3C1, [0x313]⟩,
        ⟨0x1FE6, 0x1FE6, 1, 0x3C5, [0x342]⟩,
        ⟨0x1FE7, 0x1FE7, 1, 0x3C5, [0x308, 0x342]⟩,
        ⟨0x1FF2, 0x1FF2, 1, 0x1F7C, [0x3B9]⟩,
        ⟨0x1FF3, 0x1FF3, 1, 0x3C9, [0x3B9]⟩,
        ⟨0x1FF4, 0x1FF4, 1, 0x3CE, [0x3B9]⟩,
        ⟨0x1FF6, 0x1FF6, 1, 0x3C9, [0x342]⟩]⟩,
    ⟨0x1FF7, 0xFB06,
      [⟨0x1FF7, 0x1FF7, 1, 0x3C9, [0x342, 0x3B9]⟩,
        ⟨0x1FFC, 0x1FFC, 1, 0x3C9, [0x3B9]⟩, ⟨0xAB70, 0xABBF, 1, 0x13A0, []⟩,
        ⟨0xFB00, 0xFB00, 1, 0x66, [0x66]⟩, ⟨0xFB01, 0xFB01, 1, 0x66, [0x69]⟩,
        ⟨0xFB02, 0xFB02, 1, 0x66, [0x6C]⟩,
        ⟨0xFB03, 0xFB03, 1, 0x66, [0x66, 0x69]⟩,
        ⟨0xFB04, 0xFB04, 1, 0x66, [0x66, 0x6C]⟩,
        ⟨0xFB05, 0xFB05, 1, 0x73, [0x74]⟩,
        ⟨0xFB06, 0xFB06, 1, 0x73, [0x74]⟩]⟩,
    ⟨0xFB13, 0xFB17,
      [⟨0xFB13, 0xFB13, 1, 0x574, [0x576]⟩,
        ⟨0xFB14, 0xFB14, 1, 0x574, [0x565]⟩,
        ⟨0xFB15, 0xFB15, 1, 0x574, [0x56B]⟩,
        ⟨0xFB16, 0xFB16, 1, 0x57E, [0x576]⟩,
        ⟨0xFB17, 0xFB17, 1, 0x574, [0x56D]⟩]⟩]

/-- `str.lower`, of one character. -/
def lowerCode (n : Nat) : List Nat := (find lowerTable n).getD [n]

/-- `str.casefold`, of one character. -/
def foldCode (n : Nat) : List Nat := (find foldTable n).getD (lowerCode n)

-- ================================================================ checks

/-- The characters from `first` to `last`. -/
def Row.span (row : Row) : List Nat :=
  (List.range (row.last - row.first + 1)).map (row.first + ·)

/-- The characters of the row are in no table. -/
def Row.stays (row : Row) : Bool :=
  clear row foldTable && clear row lowerTable

/-- The character folds to itself. -/
def fixed (n : Nat) : Bool :=
  match foldCode n with
  | [m] => Nat.beq m n
  | _ => false

/-- The character folds as its lower case does. -/
def agrees (n : Nat) : Bool := (lowerCode n).flatMap foldCode == foldCode n

/-- The row is one of the lower case alone, or its characters are checked
one by one. -/
def lowerChecked (row : Row) : Bool :=
  (row.tail.isEmpty && clear row foldTable && row.image.stays)
    || row.span.all fun n => agrees n && (foldCode n).all fixed

/-- What the row maps to folds to itself. -/
def foldChecked (row : Row) : Bool :=
  (row.image.stays || row.span.all fun n => fixed (row.map n))
    && row.tail.all fixed

/-- Rows that keep clear of the tables. -/
def caselessRows : List Row :=
  [⟨0x0, 0x40, 1, 0, []⟩, ⟨0x5B, 0x60, 1, 0, []⟩,
    ⟨0x7B, 0xB4, 1, 0, []⟩, ⟨0x1680, 0x1680, 1, 0, []⟩,
    ⟨0x2000, 0x2125, 1, 0, []⟩, ⟨0x2A74, 0x2A74, 1, 0, []⟩,
    ⟨0x3000, 0x3000, 1, 0, []⟩, ⟨0xFE00, 0xFF20, 1, 0, []⟩]

/-- The images of the row are characters, and none is caseless. -/
def imageChecked (row : Row) : Bool :=
  (Nat.blt row.image.last 0xD800
      || Nat.blt 0xDFFF row.target && Nat.blt row.image.last 0x110000)
    && (row.tail.all fun m => Nat.blt m 0xD800)
    && caselessRows.all fun other => other.apart row.image
      && row.tail.all fun m => !other.covers m

theorem tables_checked :
    (((rowsOf lowerTable).all fun row => lowerChecked row && imageChecked row)
      && ((rowsOf foldTable).all fun row =>
        foldChecked row && imageChecked row)
      && caselessRows.all Row.stays) = true := by
  decide +kernel

theorem lowerChecked_of_mem {row : Row} (h : row ∈ rowsOf lowerTable) :
    lowerChecked row = true ∧ imageChecked row = true := by
  have hall := tables_checked
  rw [Bool.and_eq_true, Bool.and_eq_true] at hall
  have hrow := List.all_eq_true.mp hall.1.1 row h
  rwa [Bool.and_eq_true] at hrow

theorem foldChecked_of_mem {row : Row} (h : row ∈ rowsOf foldTable) :
    foldChecked row = true ∧ imageChecked row = true := by
  have hall := tables_checked
  rw [Bool.and_eq_true, Bool.and_eq_true] at hall
  have hrow := List.all_eq_true.mp hall.1.2 row h
  rwa [Bool.and_eq_true] at hrow

theorem stays_of_caseless {row : Row} (h : row ∈ caselessRows) :
    row.stays = true := by
  have hall := tables_checked
  rw [Bool.and_eq_true] at hall
  exact List.all_eq_true.mp hall.2 row h

-- ============================================================= the codes

theorem Row.mem_span {row : Row} {n : Nat} (h : row.covers n = true) :
    n ∈ row.span := by
  obtain ⟨hfirst, hlast, -⟩ := Row.covers_iff.mp h
  refine List.mem_map.mpr ⟨n - row.first, List.mem_range.mpr ?_, ?_⟩
  · omega
  · show row.first + (n - row.first) = n
    omega

theorem lowerCode_of_none {n : Nat} (h : find lowerTable n = none) :
    lowerCode n = [n] := by
  unfold lowerCode
  rw [h, Option.getD_none]

theorem lowerCode_of_some {n : Nat} {codes : List Nat}
    (h : find lowerTable n = some codes) : lowerCode n = codes := by
  unfold lowerCode
  rw [h, Option.getD_some]

theorem foldCode_of_none {n : Nat} (h : find foldTable n = none) :
    foldCode n = lowerCode n := by
  unfold foldCode
  rw [h, Option.getD_none]

theorem foldCode_of_some {n : Nat} {codes : List Nat}
    (h : find foldTable n = some codes) : foldCode n = codes := by
  unfold foldCode
  rw [h, Option.getD_some]

/-- What is in no table folds to itself. -/
theorem foldCode_of_stays {row : Row} {n : Nat} (hrow : row.stays = true)
    (h : row.covers n = true) : foldCode n = [n] := by
  unfold Row.stays at hrow
  rw [Bool.and_eq_true] at hrow
  rw [foldCode_of_none (find_of_clear hrow.1 h),
    lowerCode_of_none (find_of_clear hrow.2 h)]

theorem foldCode_of_fixed {n : Nat} (h : fixed n = true) :
    foldCode n = [n] := by
  unfold fixed at h
  split at h
  · next m hcode => rw [hcode, Nat.beq_eq.mp h]
  · cases h

theorem agrees_iff {n : Nat} :
    agrees n = true ↔ (lowerCode n).flatMap foldCode = foldCode n := by
  unfold agrees
  rw [beq_iff_eq]

/-- The characters of a checked row of the lower case fold as their lower
case does, and to what folds to itself. -/
theorem settled_of_lowerChecked {row : Row} {n : Nat}
    (hchecked : lowerChecked row = true) (h : row.covers n = true)
    (hfind : find lowerTable n = some (row.map n :: row.tail)) :
    (lowerCode n).flatMap foldCode = foldCode n
      ∧ ∀ m ∈ foldCode n, foldCode m = [m] := by
  unfold lowerChecked at hchecked
  rw [Bool.or_eq_true, Bool.and_eq_true, Bool.and_eq_true,
    List.isEmpty_iff] at hchecked
  rcases hchecked with ⟨⟨htail, hclear⟩, himage⟩ | hspan
  · have hlower : lowerCode n = [row.map n] := by
      rw [lowerCode_of_some hfind, htail]
    have hfold : foldCode n = [row.map n] := by
      rw [foldCode_of_none (find_of_clear hclear h), hlower]
    have hstays : foldCode (row.map n) = [row.map n] :=
      foldCode_of_stays himage (Row.image_covers h)
    rw [hlower, hfold]
    refine ⟨?_, ?_⟩
    · rw [List.flatMap_singleton, hstays]
    · intro m hm
      rw [List.mem_singleton.mp hm, hstays]
  · have hn := List.all_eq_true.mp hspan n (Row.mem_span h)
    rw [Bool.and_eq_true] at hn
    exact ⟨agrees_iff.mp hn.1, fun m hm =>
      foldCode_of_fixed (List.all_eq_true.mp hn.2 m hm)⟩

/-- What a checked row of the folding maps to folds to itself. -/
theorem fixed_of_foldChecked {row : Row} {n m : Nat}
    (hchecked : foldChecked row = true) (h : row.covers n = true)
    (hm : m ∈ row.map n :: row.tail) : foldCode m = [m] := by
  unfold foldChecked at hchecked
  rw [Bool.and_eq_true, Bool.or_eq_true] at hchecked
  rcases List.mem_cons.mp hm with rfl | htail
  · rcases hchecked.1 with hstays | hspan
    · exact foldCode_of_stays hstays (Row.image_covers h)
    · exact foldCode_of_fixed
        (List.all_eq_true.mp hspan n (Row.mem_span h))
  · exact foldCode_of_fixed (List.all_eq_true.mp hchecked.2 m htail)

theorem settled (n : Nat) :
    (lowerCode n).flatMap foldCode = foldCode n
      ∧ ∀ m ∈ foldCode n, foldCode m = [m] := by
  cases hlower : find lowerTable n with
  | some codes =>
      obtain ⟨row, hrow, hcovers, rfl⟩ := find_some hlower
      exact settled_of_lowerChecked (lowerChecked_of_mem hrow).1 hcovers
        hlower
  | none =>
      have hself : lowerCode n = [n] := lowerCode_of_none hlower
      refine ⟨?_, ?_⟩
      · rw [hself, List.flatMap_singleton]
      · cases hfold : find foldTable n with
        | some codes =>
            obtain ⟨row, hrow, hcovers, rfl⟩ := find_some hfold
            rw [foldCode_of_some hfold]
            intro m hm
            exact fixed_of_foldChecked (foldChecked_of_mem hrow).1 hcovers hm
        | none =>
            have hfix : foldCode n = [n] := by
              rw [foldCode_of_none hfold, hself]
            rw [hfix]
            intro m hm
            rw [List.mem_singleton.mp hm, hfix]

theorem foldCode_foldCode {n m : Nat} (h : m ∈ foldCode n) :
    foldCode m = [m] :=
  (settled n).2 m h

theorem foldCode_lowerCode (n : Nat) :
    (lowerCode n).flatMap foldCode = foldCode n :=
  (settled n).1

theorem lowerCode_ne_nil (n : Nat) : lowerCode n ≠ [] := by
  cases hlower : find lowerTable n with
  | none =>
      rw [lowerCode_of_none hlower]
      exact List.cons_ne_nil _ _
  | some codes =>
      obtain ⟨row, -, -, rfl⟩ := find_some hlower
      rw [lowerCode_of_some hlower]
      exact List.cons_ne_nil _ _

theorem foldCode_ne_nil (n : Nat) : foldCode n ≠ [] := by
  cases hfold : find foldTable n with
  | none =>
      rw [foldCode_of_none hfold]
      exact lowerCode_ne_nil n
  | some codes =>
      obtain ⟨row, -, -, rfl⟩ := find_some hfold
      rw [foldCode_of_some hfold]
      exact List.cons_ne_nil _ _

-- =========================================================== the results

/-- Where a character that results from `n` comes from. -/
def Result (n m : Nat) : Prop :=
  m = n ∨ ∃ row, imageChecked row = true ∧ row.covers n = true
    ∧ m ∈ row.map n :: row.tail

theorem Result.of_lowerCode {n m : Nat} (h : m ∈ lowerCode n) :
    Result n m := by
  cases hlower : find lowerTable n with
  | none =>
      rw [lowerCode_of_none hlower] at h
      exact .inl (List.mem_singleton.mp h)
  | some codes =>
      obtain ⟨row, hrow, hcovers, rfl⟩ := find_some hlower
      rw [lowerCode_of_some hlower] at h
      exact .inr ⟨row, (lowerChecked_of_mem hrow).2, hcovers, h⟩

theorem Result.of_foldCode {n m : Nat} (h : m ∈ foldCode n) :
    Result n m := by
  cases hfold : find foldTable n with
  | none =>
      rw [foldCode_of_none hfold] at h
      exact .of_lowerCode h
  | some codes =>
      obtain ⟨row, hrow, hcovers, rfl⟩ := find_some hfold
      rw [foldCode_of_some hfold] at h
      exact .inr ⟨row, (foldChecked_of_mem hrow).2, hcovers, h⟩

theorem Result.valid {n m : Nat} (hn : n.isValidChar) (h : Result n m) :
    m.isValidChar := by
  rcases h with rfl | ⟨row, himage, hcovers, hm⟩
  · exact hn
  · unfold imageChecked at himage
    rw [Bool.and_eq_true, Bool.and_eq_true, Bool.or_eq_true,
      Bool.and_eq_true, Nat.blt_eq, Nat.blt_eq, Nat.blt_eq] at himage
    obtain ⟨⟨hvalid, htail⟩, -⟩ := himage
    rcases List.mem_cons.mp hm with rfl | hm
    · obtain ⟨hfirst, hlast, -⟩ :=
        Row.covers_iff.mp (Row.image_covers hcovers)
      have hfirst' : row.target ≤ row.map n := hfirst
      rcases hvalid with hvalid | ⟨hlow, hhigh⟩
      · exact .inl (by omega)
      · exact .inr ⟨by omega, by omega⟩
    · exact .inl (Nat.blt_eq.mp (List.all_eq_true.mp htail m hm))

theorem foldCode_of_caseless {row : Row} {n : Nat}
    (hrow : row ∈ caselessRows) (h : row.covers n = true) :
    foldCode n = [n] :=
  foldCode_of_stays (stays_of_caseless hrow) h

theorem eq_of_mem_foldCode {row : Row} {n m : Nat}
    (hrow : row ∈ caselessRows) (hm : row.covers m = true)
    (h : m ∈ foldCode n) : m = n := by
  rcases Result.of_foldCode h with rfl | ⟨other, himage, hcovers, hmem⟩
  · rfl
  · unfold imageChecked at himage
    rw [Bool.and_eq_true] at himage
    have hclear := List.all_eq_true.mp himage.2 row hrow
    rw [Bool.and_eq_true] at hclear
    rcases List.mem_cons.mp hmem with rfl | htail
    · have hnot := Row.not_covers_of_apart hclear.1 hm
      rw [Row.image_covers hcovers] at hnot
      cases hnot
    · have hnot := List.all_eq_true.mp hclear.2 m htail
      rw [hm] at hnot
      cases hnot

end CaseFolding
