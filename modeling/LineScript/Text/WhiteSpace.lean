import LineScript.Text.Basic

/-!
# White space, trimming and words

White space is the Unicode property `White_Space`. Trimming removes it from both ends of a text, and
the words of a text are its maximal runs of other characters, in order.
-/

namespace LineScript.Text

set_option autoImplicit false

/-- The characters with the Unicode property `White_Space`. -/
def isWhiteSpace (c : Char) : Bool :=
  let code := c.toNat
  (0x09 ≤ code && code ≤ 0x0D) || code == 0x20 || code == 0x85 || code == 0xA0 ||
    code == 0x1680 || (0x2000 ≤ code && code ≤ 0x200A) || code == 0x2028 || code == 0x2029 ||
    code == 0x202F || code == 0x205F || code == 0x3000

def trimStart (text : Text) : Text := text.dropWhile isWhiteSpace

def trimEnd (text : Text) : Text := (text.reverse.dropWhile isWhiteSpace).reverse

def trim (text : Text) : Text := trimEnd (trimStart text)

/-- The pieces of a text between its white space characters, empty ones included. -/
def pieces : Text → List Text
  | [] => [[]]
  | c :: rest =>
    if isWhiteSpace c then [] :: pieces rest
    else
      match pieces rest with
      | [] => [[c]]
      | piece :: others => (c :: piece) :: others

/-- The maximal runs of characters that are not white space, in order. -/
def words (text : Text) : List Text := (pieces text).filter (!·.isEmpty)

theorem words_cons_white_space {c : Char} (rest : Text) (blank : isWhiteSpace c = true) :
    words (c :: rest) = words rest := by
  simp [words, pieces, blank]

theorem ne_nil_of_mem_words {word text : Text} (found : word ∈ words text) : word ≠ [] := by
  simpa using (List.mem_filter.mp found).2

end LineScript.Text
