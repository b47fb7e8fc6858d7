/-!
# Colours

Text for a terminal may be coloured.  A painted text is put between the codes that turn its style
on and off; where it turns styles off itself, its own style is turned on again.
-/

namespace Untranslated

inductive Colour where
  | red
  | green
  | yellow
  | blue
  | cyan
  deriving DecidableEq, Repr, Inhabited

def Colour.code : Colour → String
  | red => "31"
  | green => "32"
  | yellow => "33"
  | blue => "34"
  | cyan => "36"

structure Style where
  bold : Bool := false
  dimmed : Bool := false
  colour : Option Colour := none
  deriving DecidableEq, Repr, Inhabited

namespace Style

def red : Style := { colour := some .red }

def green : Style := { colour := some .green }

def yellow : Style := { colour := some .yellow }

def blue : Style := { colour := some .blue }

def cyan : Style := { colour := some .cyan }

def strong : Style := { bold := true }

/-- The same style in bold. -/
def inBold (style : Style) : Style := { style with bold := true }

/-- The same style, dimmed. -/
def inDim (style : Style) : Style := { style with dimmed := true }

/-- The code that turns a style on. -/
def code (style : Style) : String :=
  let codes := (if style.bold then ["1"] else []) ++ (if style.dimmed then ["2"] else []) ++
    (style.colour.map Colour.code).toList
  "\x1b[" ++ ";".intercalate codes ++ "m"

/-- The code that turns every style off. -/
def reset : List Char := ['\x1b', '[', '0', 'm']

/-- Puts a code after each place where a text turns styles off. -/
def resume (code : List Char) : List Char → List Char
  | '\x1b' :: '[' :: '0' :: 'm' :: chars => reset ++ code ++ resume code chars
  | char :: chars => char :: resume code chars
  | [] => []

/-- A text in a style, if colours are on. -/
def paint (style : Style) (colours : Bool) (text : String) : String :=
  if colours then
    let code := style.code
    code ++ String.ofList (resume code.toList text.toList ++ reset)
  else text

end Style

end Untranslated
