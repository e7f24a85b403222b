/-!
# Texts with words of a lower layer in them

A message keeps its own words apart from those it repeats from a layer below, such as a parser or a
connection, so that a log can show the former and withhold the latter.
-/

set_option autoImplicit false

namespace Dispatch

inductive Phrase where
  | own (text : String)
  | quoted (text : String)
deriving DecidableEq

abbrev Message := List Phrase

namespace Message

def ofText (s : String) : Message := [.own s]

/-- The text with each repeated phrase shown by `f`. -/
def render (f : String → String) : Message → String
  | [] => ""
  | .own s :: rest => s ++ render f rest
  | .quoted s :: rest => f s ++ render f rest

def text (m : Message) : String := render id m

def withheld (mark : String) (m : Message) : String := render (fun _ => mark) m

end Message

end Dispatch
