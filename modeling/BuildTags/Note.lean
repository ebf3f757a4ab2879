import BuildTags.Text.Basic

namespace BuildTags

inductive Level
  | debug
  | info
  | warning
  | error
  deriving DecidableEq, Repr

def Level.name : Level → Text
  | .debug => "DEBUG"
  | .info => "INFO"
  | .warning => "WARNING"
  | .error => "ERROR"

structure Note where
  level : Level
  text : Text
  deriving DecidableEq, Repr

def Note.line (note : Note) : Text := note.level.name ++ ": " ++ note.text ++ "\n"

def Note.shown (debug : Bool) (note : Note) : Bool := debug || note.level ≠ .debug

def shownLines (debug : Bool) (notes : List Note) : Text :=
  (notes.filter (Note.shown debug)).flatMap Note.line

end BuildTags
