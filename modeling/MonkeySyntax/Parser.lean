import MonkeySyntax.Reading.Program

namespace MonkeySyntax

/-- A parser is a cursor and the record of all that was read in front of it. -/
structure Parser where
  cursor : Cursor
  record : Record

namespace Parser

/-- A fresh parser has looked at the first two tokens of its source and recorded nothing. -/
def ofSource (source : Source) : Parser :=
  ⟨.start source, .empty⟩

/-- The errors found so far stand in the order in which they were found. -/
def errors (parser : Parser) : List SyntaxError :=
  parser.record.errors

def events (parser : Parser) : List Event :=
  parser.record.events

/-- The source is known with the number of times it was asked. -/
def source (parser : Parser) : Source :=
  parser.cursor.source

/-- A program reaches up to the end of the input, whatever is wrong on the way. The errors in it are
kept behind those of the programs before it. -/
def readProgram (parser : Parser) : Program × Parser :=
  let reading := Statement.readList .program parser.cursor
  (⟨reading.value⟩, ⟨reading.rest, parser.record.append reading.record⟩)

/-- A program is accepted when no error has been found so far, this time or earlier. -/
def parse (parser : Parser) : Except (List SyntaxError) Program × Parser :=
  let (program, parser) := parser.readProgram
  (if parser.errors = [] then .ok program else .error parser.errors, parser)

end Parser

/-- A source is read from its beginning. -/
def Source.read (source : Source) : Program × Parser :=
  (Parser.ofSource source).readProgram

/-- The program of a source is what is read from its first token on. -/
theorem Source.program_read (source : Source) :
    source.read.1 = ⟨(Statement.readList .program (.start source)).value⟩ := rfl

/-- The events of a source are those noted on the way. -/
theorem Source.events_read (source : Source) :
    source.read.2.events = (Statement.readList .program (.start source)).events := by
  rw [Source.read, Parser.readProgram, Parser.ofSource, Parser.events, Record.events_append]
  rfl

/-- The errors of a source are those noted on the way. -/
theorem Source.errors_read (source : Source) :
    source.read.2.errors = (Statement.readList .program (.start source)).errors := by
  rw [Source.read, Parser.readProgram, Parser.ofSource, Parser.errors, Record.errors_append]
  rfl

end MonkeySyntax
