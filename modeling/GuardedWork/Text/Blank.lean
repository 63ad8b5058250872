namespace GuardedWork.Text

-- Tab to carriage return and the space are the ASCII ones; all others are single code points or
-- the run of typographic spaces.
def isBlankChar (c : Char) : Bool :=
  let n := c.toNat
  (0x9 ≤ n && n ≤ 0xd) || n == 0x20 || n == 0x85 || n == 0xa0 || n == 0x1680 ||
    (0x2000 ≤ n && n ≤ 0x200a) || n == 0x2028 || n == 0x2029 || n == 0x202f || n == 0x205f || n == 0x3000

def isBlank (s : String) : Bool := s.toList.all isBlankChar

def trimBlank (s : String) : String :=
  String.ofList ((s.toList.dropWhile isBlankChar).reverse.dropWhile isBlankChar).reverse

theorem isBlank_iff {s : String} : isBlank s = true ↔ ∀ c ∈ s.toList, isBlankChar c = true :=
  List.all_eq_true

example : isBlank "" = true := rfl
example : (List.range 0x100).countP (fun n => isBlankChar (Char.ofNat n)) = 8 := by decide +kernel

end GuardedWork.Text
