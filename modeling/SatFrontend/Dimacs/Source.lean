import SatFrontend.Dimacs.Reader
import SatFrontend.Files

namespace SatFrontend.Dimacs

-- A stream of bytes as it is handed out, one piece after the other. An empty piece is the
-- end. If `failure` is given the stream breaks after the last piece.
structure Supply where
  pieces : List (List UInt8)
  failure : Option IoError := none

-- Cut bytes into pieces of `size` bytes, the last of which may be shorter. There are no pieces
-- of size 0, so nothing is handed out then.
def cut (size : Nat) (bytes : List UInt8) : List (List UInt8) :=
  if _h : size = 0 ∨ bytes = [] then []
  else bytes.take size :: cut size (bytes.drop size)
termination_by bytes.length
decreasing_by
  simp only [not_or] at _h
  have : 0 < bytes.length := List.length_pos_iff.mpr _h.2
  simp only [List.length_drop]
  omega

-- Bytes handed out all at once.
def Supply.ofBytes (bytes : List UInt8) : Supply := ⟨[bytes], none⟩

-- Where a formula can be read from.
inductive Source where
  | clauses (cs : List (List Int))
  -- clauses made on demand
  | producer (cs : Unit → List (List Int))
  | path (path : String)
  | text (bytes : List UInt8)
  | supply (supply : Supply)

-- A text that is the path of a file stands for the file, any other text for itself.
def Source.detect (files : Files) (input : String) : Source :=
  if files.isRegular input then .path input else .text (Text.encode input)

-- Why reading stopped.
inductive ReadError where
  | io (e : IoError)
  | malformed (e : SyntaxError)
  | entry (e : EntryError)
deriving DecidableEq, Repr

def ReadError.message : ReadError → String
  | io e => "Error reading input: " ++ e.message
  | malformed e => e.message
  | entry e => e.message

-- What came of reading into a receiver. It keeps what it got before an error.
structure Reading (σ : Type) where
  receiver : σ
  notices : List Notice := []
  error : Option ReadError := none

-- What came of reading DIMACS text: the receiver's side and the reader at the end.
structure TextReading (σ : Type) extends Reading σ where
  reader : Reader

variable {σ : Type} [Receiver σ]

-- Take in the end of the text.
def readEnd (r : Reader) (s : σ) (notices : List Notice) : TextReading σ :=
  let scan := r.feedEnd
  let s := scan.forward s
  let notices := notices ++ scan.notices
  match scan.error with
  | some e => { receiver := s, notices, error := some (.malformed e), reader := scan.reader }
  | none =>
    { receiver := s
      notices := notices ++ [.parsed scan.reader.clauseCount scan.reader.line]
      reader := scan.reader }

-- Take in the pieces of a stream and then its end or its failure.
def readPieces (failure : Option IoError) (r : Reader) (s : σ) (notices : List Notice) :
    List (List UInt8) → TextReading σ
  | [] =>
    match failure with
    | some e => { receiver := s, notices, error := some (.io e), reader := r }
    | none => readEnd r s notices
  | [] :: _ => readEnd r s notices
  | piece :: pieces =>
    let scan := r.feed (Receiver.limit s) piece
    let s := scan.forward s
    let notices := notices ++ scan.notices
    match scan.error with
    | some e => { receiver := s, notices, error := some (.malformed e), reader := scan.reader }
    | none => readPieces failure scan.reader s notices pieces

-- Read DIMACS text into a receiver. A clause that is not ended stays open.
def readText (supply : Supply) (s : σ) : TextReading σ :=
  readPieces supply.failure {} s [] supply.pieces

-- Read DIMACS text as a formula.
def parse (supply : Supply) : TextReading Formula :=
  let reading := readText supply Formula.empty
  match reading.error with
  | some _ => reading
  | none => { reading with receiver := reading.receiver.close }

-- Add clauses one after the other.
def readClauses (s : σ) (cs : List (List Int)) : Reading σ :=
  let (s, e) := Receiver.runAll Receiver.addNumbers s cs
  { receiver := s, error := e.map .entry }

-- Read a formula into a receiver.
def read (files : Files) (s : σ) : Source → Reading σ
  | .clauses cs => readClauses s cs
  | .producer cs => readClauses s (cs ())
  | .path path =>
    match files.read path with
    | .error e => { receiver := s, notices := [.readingFile path], error := some (.io e) }
    | .ok bytes =>
      let reading := (readText (.ofBytes bytes) s).toReading
      { reading with notices := .readingFile path :: reading.notices }
  | .text bytes => (readText (.ofBytes bytes) s).toReading
  | .supply supply => (readText supply s).toReading

end SatFrontend.Dimacs
