/-
Writing lines to a console. What is written is kept as bytes until a flush sends it as one line
without the blanks at its end; a flush with nothing kept sends nothing.
-/
import Taskboard.Text.Blank
import Taskboard.Text.Utf8

namespace Taskboard.Console

/-- The bytes that wait for a flush. -/
structure Writer where
  buffer : List UInt8

/-- A writer with nothing kept. -/
def Writer.new : Writer :=
  ⟨[]⟩

/-- Keeps bytes and says how many they were. -/
def Writer.write (writer : Writer) (bytes : List UInt8) : Nat × Writer :=
  (bytes.length, ⟨writer.buffer ++ bytes⟩)

/-- Sends what was kept; gives the lines that the console receives. Closing a writer flushes it. -/
def Writer.flush (writer : Writer) : List String × Writer :=
  if writer.buffer.isEmpty then ([], writer)
  else ([Text.trimEnd (String.ofList (Text.ofUtf8Lossy writer.buffer))], .new)

end Taskboard.Console
