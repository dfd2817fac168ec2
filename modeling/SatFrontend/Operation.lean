import SatFrontend.Dimacs.Source

namespace SatFrontend

-- One thing that can be done to any receiver.
inductive Operation where
  | add (items : List Receiver.Item)
  | addNumber (n : Int)
  | addNumbers (ns : List Int)
  | addClause (ns : List Int)
  | push (n : Int)
  | endClause
  | assume (ns : List Int)
  | assumeLit (n : Int)
  | read (source : Dimacs.Source)

namespace Operation

variable {σ : Type} [Receiver σ]

-- What is added whole leaves the receiver alone when it is refused.
def attempt (s : σ) : Except EntryError σ → Dimacs.Reading σ
  | .ok s' => { receiver := s' }
  | .error e => { receiver := s, error := some (.entry e) }

-- What was done before a refusal stays.
def partly : σ × Option EntryError → Dimacs.Reading σ
  | (s, e) => { receiver := s, error := e.map .entry }

def perform (files : Files) (s : σ) : Operation → Dimacs.Reading σ
  | add items => partly (Receiver.addAll s items)
  | addNumber n => attempt s (Receiver.addNumber s n)
  | addNumbers ns => attempt s (Receiver.addNumbers s ns)
  | addClause ns => attempt s (do Receiver.addClause s (← Lit.ofInts ns))
  | push n => attempt s (do return Receiver.push s (← Lit.ofInt n))
  | endClause => { receiver := Receiver.endClause s }
  | assume ns => partly (Receiver.assumeAll s ns)
  | assumeLit n => attempt s (do return Receiver.assume s (← Lit.ofInt n))
  | read source => Dimacs.read files s source

end Operation

end SatFrontend
