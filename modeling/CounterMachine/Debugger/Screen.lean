import CounterMachine.Debugger.Basic
import CounterMachine.Debugger.Widget

/-!
# The screen of the debugger

Five widgets: the program around the current label, the machine and the last notice on
the left, the registers and the keys on the right.
-/

namespace CounterMachine

namespace Debugger

/-- The definitions around the current label, or the first ones if it has none. -/
def programList (d : Debugger) (area : Area) : Widget :=
  let listing := d.listing?.getD []
  let visible := area.height - 2
  let current := (listing.findIdx? fun (_, _, isCurrent) => isCurrent).getD 0
  let start := current - visible / 2
  .list ⟨.ofColor .cyan, " Program "⟩ <|
    ((listing.drop start).take visible).map fun (label, instruction, isCurrent) =>
      let arrow := if isCurrent then "▶ " else "  "
      let point := if d.breakpoints.contains label then "●" else " "
      let style :=
        if isCurrent then ⟨.yellow, true⟩
        else if d.breakpoints.contains label then .ofColor .red
        else .plain
      ⟨style, point ++ " " ++ (arrow ++ label.text ++ ": " ++ instruction.text)⟩

def statusColor : Status → Color
  | .running => .green
  | .halted .proper => .cyan
  | .halted .erroneous => .red

def machineParagraph (d : Debugger) : Widget :=
  let m := d.machine
  let labelColor := if m.current?.isSome then Color.yellow else .red
  .paragraph ⟨.ofColor .green, " Machine "⟩ .plain
    [[⟨.plain, "Label: "⟩, ⟨.ofColor labelColor, m.label.text⟩, ⟨.plain, "   Start: "⟩,
        ⟨.plain, m.startLabel.text⟩],
      [⟨.plain, "Steps: "⟩, ⟨.ofColor .cyan, m.steps.repr⟩, ⟨.plain, "   State: "⟩,
        ⟨.ofColor (statusColor m.status), m.status.name⟩]]

def registerRows (d : Debugger) (rows : Nat) : List (Nat × Nat) :=
  let values := d.machine.registers.toList
  let first := min d.scroll values.length
  (((values.drop first).take rows).zipIdx first).map fun (value, i) => (i, value)

def registerStyle (d : Debugger) (i value : Nat) : Style :=
  if d.machine.current?.bind Instruction.register? = some i then ⟨.yellow, true⟩
  else if value ≠ 0 then .ofColor .white
  else .ofColor .gray

def registerText (i value : Nat) : String :=
  "r" ++ i.repr ++ String.ofList (List.replicate (4 - i.repr.length) ' ') ++ " " ++ value.repr

def registerList (d : Debugger) (area : Area) : Widget :=
  .list ⟨.ofColor .magenta, " Registers "⟩ <|
    (d.registerRows (area.height - 2)).map fun (i, value) =>
      ⟨d.registerStyle i value, registerText i value⟩

def noticeParagraph (d : Debugger) : Widget :=
  .paragraph ⟨.plain, " Status "⟩ (.ofColor .white) [[⟨.plain, d.notice.text⟩]]

def helpParagraph : Widget :=
  .paragraph ⟨.plain, " Help "⟩ (.ofColor .gray)
    [[⟨.plain, "s: Step  r: Run  p: Pause  b: Breakpoint"⟩],
      [⟨.plain, "x: Reset  ↑↓: Scroll registers  q: Quit"⟩]]

/-- Draws the debugger on a frame of a terminal. -/
def draw {Frame : Type} (d : Debugger) (terminal : Terminal Frame) (frame : Frame) : Frame :=
  let columns := terminal.split .horizontal #v[.percentage 60, .percentage 40]
    (terminal.area frame)
  let left := terminal.split .vertical #v[.min 10, .length 5, .length 3] columns[0]
  let right := terminal.split .vertical #v[.min 10, .length 4] columns[1]
  let frame := terminal.render frame (d.programList left[0]) left[0]
  let frame := terminal.render frame d.machineParagraph left[1]
  let frame := terminal.render frame d.noticeParagraph left[2]
  let frame := terminal.render frame (d.registerList right[0]) right[0]
  terminal.render frame helpParagraph right[1]

end Debugger

end CounterMachine
