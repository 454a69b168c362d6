import VariantChess.Text.Case
import VariantChess.Text.Character
import VariantChess.Text.EmojiNames
import VariantChess.Text.Width

/-!
# Pictures in text

A text may ask for a picture by its name between colons, in any case. Behind a dash the name may be
followed by a word that says whether the picture is to look like one or like a letter. Names that no
picture has stay as they are.
-/

namespace VariantChess.Text

/-- The selector that shows the character before it as a letter. -/
def letterSelector : Char := '\uFE0E'

/-- The words that choose between a picture and a letter. -/
def selectorWords : List (List Char × Char) :=
  [("-emoji".toList, pictureSelector), ("-text".toList, letterSelector)]

/-- The name in what stands between two colons, and the selector that is asked for. -/
def splitSelector (word : List Char) : List Char × List Char :=
  match selectorWords.find? fun e => e.1.isSuffixOf word with
  | some (ending, selector) => (word.take (word.length - ending.length), [selector])
  | none => (word, [])

/-- What is shown for a word between two colons. -/
def shownName (word : List Char) : List Char :=
  let (name, selector) := splitSelector word
  match emoji? (lower name) with
  | some picture => picture ++ selector
  | none => ':' :: word ++ [':']

/-- The text with its names of pictures replaced. The first argument bounds the number of steps. -/
def withEmojiFrom : Nat → List Char → List Char
  | 0, s => s
  | _, [] => []
  | steps + 1, c :: cs =>
    let word := cs.takeWhile fun d => d ≠ ':' && !isBlank d
    match cs.drop word.length with
    | ':' :: behind =>
      if c = ':' then shownName word ++ withEmojiFrom steps behind else c :: withEmojiFrom steps cs
    | _ => c :: withEmojiFrom steps cs

/-- The text with its names of pictures replaced. -/
def withEmoji (s : List Char) : List Char := withEmojiFrom (s.length + 1) s

end VariantChess.Text
