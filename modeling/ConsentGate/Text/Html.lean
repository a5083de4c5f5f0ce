import ConsentGate.Text.CodePoint

namespace ConsentGate.Html

def escapeChar : Char → List Char
  | '&' => "&amp;".toList
  | '<' => "&lt;".toList
  | '>' => "&gt;".toList
  | '\x22' => "&quot;".toList
  | '\x27' => "&#x27;".toList
  | '\x60' => "&#x60;".toList
  | '=' => "&#x3D;".toList
  | c => [c]

def escapePoint : CodePoint → Text
  | .scalar c => .ofChars (escapeChar c)
  | .surrogate i => [.surrogate i]

def escape (t : Text) : Text := t.flatMap escapePoint

@[simp] theorem escape_nil : escape [] = [] := rfl

@[simp] theorem escape_cons (c : CodePoint) (t : Text) :
    escape (c :: t) = escapePoint c ++ escape t := rfl

theorem escape_append (a b : Text) : escape (a ++ b) = escape a ++ escape b :=
  List.flatMap_append

open CodePoint in
def unescape : Text → Text
  | scalar '&' :: scalar 'a' :: scalar 'm' :: scalar 'p' :: scalar ';' :: rest =>
    scalar '&' :: unescape rest
  | scalar '&' :: scalar 'l' :: scalar 't' :: scalar ';' :: rest =>
    scalar '<' :: unescape rest
  | scalar '&' :: scalar 'g' :: scalar 't' :: scalar ';' :: rest =>
    scalar '>' :: unescape rest
  | scalar '&' :: scalar 'q' :: scalar 'u' :: scalar 'o' :: scalar 't' :: scalar ';' :: rest =>
    scalar '\x22' :: unescape rest
  | scalar '&' :: scalar '#' :: scalar 'x' :: scalar '2' :: scalar '7' :: scalar ';' :: rest =>
    scalar '\x27' :: unescape rest
  | scalar '&' :: scalar '#' :: scalar 'x' :: scalar '6' :: scalar '0' :: scalar ';' :: rest =>
    scalar '\x60' :: unescape rest
  | scalar '&' :: scalar '#' :: scalar 'x' :: scalar '3' :: scalar 'D' :: scalar ';' :: rest =>
    scalar '=' :: unescape rest
  | c :: rest => c :: unescape rest
  | [] => []

end ConsentGate.Html
