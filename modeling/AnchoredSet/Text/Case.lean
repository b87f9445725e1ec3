/-!
Upper case for words that are compared with ASCII words.
-/

namespace AnchoredSet.Text

/-- Characters beyond ASCII whose upper-case form is made of ASCII letters. -/
def foldedUpper : List (Char × List Char) :=
  [('ß', ['S', 'S']), ('ı', ['I']), ('ſ', ['S']), ('ﬀ', ['F', 'F']), ('ﬁ', ['F', 'I']),
   ('ﬂ', ['F', 'L']), ('ﬃ', ['F', 'F', 'I']), ('ﬄ', ['F', 'F', 'L']), ('ﬅ', ['S', 'T']),
   ('ﬆ', ['S', 'T'])]

def upper (text : List Char) : List Char :=
  text.flatMap fun c => (foldedUpper.lookup c).getD [c.toUpper]

end AnchoredSet.Text
