import Courier.Scenario.Turns

/-!
# Links by themselves

A link can be tried out without a pipe on it.  Then a world has only the link,
and what its sinks are told goes to the log.
-/

namespace Courier.Scenario

set_option autoImplicit false

namespace World

/-- A world with a memory link, whose ends are the first two streams. -/
def memoryPair : World := { new 0 [] with scene := Scene.new.addCable.2.2 }

/-- A world with a byte stream between a script and a writer. -/
def scripted (label : String) (framing : Framing) (writer : ScriptedWriter) : World :=
  { new 0 [] with
    scene := (Scene.new.addDuplex (.new label framing (.script []) (.script writer))).2 }

/-- The log since it was last looked at. -/
def takeLog (world : World) : List (String × Event) × World :=
  (world.scene.log, { world with scene := { world.scene with log := [] } })

end World

namespace Scene

/-- The next read of a scripted byte stream has an answer.  Reading no bytes means the end. -/
def offer (scene : Scene) (number : Nat) (answer : Except String Bytes) : Scene :=
  match scene.duplexes[number]? with
  | some duplex =>
    match duplex.source with
    | .script answers =>
      (scene.setDuplex number { duplex with source := .script (answers ++ [answer]) }).wake
        (.readLoop number)
    | .conduit _ => scene
  | none => scene

/-- The owner of an end of a memory link lets go of it. -/
def releaseEnd (scene : Scene) (id : StreamId) : Scene :=
  match scene.streams[id]? with
  | some (.cable number side) =>
    match scene.cables[number]? with
    | some cable =>
      (scene.setCable number { cable with link := cable.link.release side }).wakePump number
        side.other
    | none => scene
  | _ => scene

/-- Cuts a memory link. -/
def severCable (scene : Scene) (number : Nat) : Scene :=
  match scene.cables[number]? with
  | some cable => scene.setCable number { cable with link := cable.link.sever }
  | none => scene

/-- Whether a memory link is cut. -/
def isSevered (scene : Scene) (number : Nat) : Bool :=
  scene.cables[number]?.any fun cable => cable.link.severed

/-- What a reader is shown of a stream. -/
def describe (scene : Scene) (id : StreamId) : String :=
  match scene.streams[id]? with
  | some (.scripted stream) => stream.name
  | some (.cable _ side) => MemoryLink.describe side
  | some (.duplex number) => (scene.duplexes[number]?.map (·.label)).getD ""
  | none => ""

end Scene

end Courier.Scenario
