namespace CloudThreat

/-- The parts of a text between the separators; a text without any is one part. -/
def cut {α : Type} [DecidableEq α] (sep : α) : List α → List (List α)
  | [] => [[]]
  | c :: rest =>
    if c = sep then [] :: cut sep rest
    else
      match cut sep rest with
      | part :: parts => (c :: part) :: parts
      | [] => [[c]]

/-- A text cut in two at the first separator, which is in neither half. -/
def cutOnce? (sep : Char) (cs : List Char) : Option (List Char × List Char) :=
  match cs.dropWhile (· ≠ sep) with
  | _ :: rest => some (cs.takeWhile (· ≠ sep), rest)
  | [] => none

/-- Does the part stand somewhere in the text? -/
def isPart (part : List Char) : List Char → Bool
  | [] => part.isEmpty
  | c :: rest => part.isPrefixOf (c :: rest) || isPart part rest

/-- Does one of the words stand somewhere in the text? -/
def hasAny (words : List String) (text : String) : Bool :=
  words.any fun w => isPart w.toList text.toList

end CloudThreat
