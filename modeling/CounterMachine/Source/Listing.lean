import CounterMachine.Source.Load

/-!
# Listings

A setup as program text: the configuration, then the definitions in their
order with the instructions in one column. Loading a listing gives the setup
back.
-/

namespace CounterMachine

namespace Listing

/-- The width of the column of labels, each with its colon. It counts the bytes
of the longest label, so no label is wider. -/
def width (labels : List Label) : Nat :=
  labels.foldr (fun l w => max l.text.utf8ByteSize w) 0 + 1

def padded (width : Nat) (s : String) : String :=
  s ++ String.ofList (List.replicate (width - s.length) ' ')

def definition (width : Nat) (label : Label) (instruction : Instruction) : String :=
  padded width (label.text ++ ":") ++ " " ++ instruction.text

def text (config : Configuration) (defs : List (Label × Instruction)) : String :=
  let w := width (defs.map (·.1))
  config.text ++ "\n" ++ String.join (defs.map fun (label, instruction) =>
    definition w label instruction ++ "\n")

end Listing

/-- The setup as program text, if its order names defined labels only. -/
def Setup.listing? (setup : Setup) : Option String :=
  setup.program.definitions?.map (Listing.text setup.config)

end CounterMachine
