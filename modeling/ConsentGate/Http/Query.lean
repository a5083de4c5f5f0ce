import ConsentGate.Http.Percent
import ConsentGate.Text.Latin1

namespace ConsentGate.Http

abbrev Query := List (String × String)

namespace Query

def splitOn (separator : Char) (cs : List Char) : List (List Char) :=
  match cs with
  | [] => [[]]
  | c :: rest =>
    if c = separator then [] :: splitOn separator rest
    else match splitOn separator rest with
      | part :: parts => (c :: part) :: parts
      | [] => [[c]]

def decodePart (cs : List Char) : String :=
  .ofList (Percent.decode (cs.map fun c => if c = '+' then ' ' else c))

def decodePair (cs : List Char) : String × String :=
  let name := cs.takeWhile (· != '=')
  (decodePart name, decodePart (cs.drop (name.length + 1)))

/-- What is sent unescaped is read byte by byte. -/
def ofString (s : String) : Query :=
  ((splitOn '&' (Latin1.ofBytes (Text.utf8 s.toList))).filter (!·.isEmpty)).map decodePair

def values (q : Query) (name : String) : List String :=
  (q.filter (·.1 = name)).map (·.2)

end Query

end ConsentGate.Http
