/-!
# Spellings in ASCII

For characters of many scripts the ASCII text by which they are spelled.

## Contents

- `SpellingBlock`: neighbouring characters with their spellings, and one block for each script.
- `spellingBlocks`: all of them.
- `hanSpellings`: readings of common Han characters.
-/

namespace Shortlink.Text

/-- Spellings of the characters that follow one another from code point `first` on. -/
structure SpellingBlock where
  first : Nat
  spellings : List String

/-- The spelling of a code point, if it lies in the block. -/
def SpellingBlock.spelling? (b : SpellingBlock) (n : Nat) : Option String :=
  if n < b.first then none else b.spellings[n - b.first]?

/-- Latin letters and signs. -/
def latinSpellings : SpellingBlock where
  first := 0x80
  spellings := [
    "", "", "", "", "", "", "", "", "", "", "", "", "", "", "", "", "", "", "", "", "", "", "",
    "", "", "", "", "", "", "", "", "", " ", "!", "C/", "PS", "$?", "Y=", "|", "SS", "\"", "(c)",
    "a", "<<", "!", "", "(r)", "-", "deg", "+-", "2", "3", "'", "u", "P", "*", ",", "1", "o",
    ">>", " 1/4", " 1/2", " 3/4", "?", "A", "A", "A", "A", "A", "A", "AE", "C", "E", "E", "E",
    "E", "I", "I", "I", "I", "D", "N", "O", "O", "O", "O", "O", "x", "O", "U", "U", "U", "U", "Y",
    "Th", "ss", "a", "a", "a", "a", "a", "a", "ae", "c", "e", "e", "e", "e", "i", "i", "i", "i",
    "d", "n", "o", "o", "o", "o", "o", "/", "o", "u", "u", "u", "u", "y", "th", "y", "A", "a",
    "A", "a", "A", "a", "C", "c", "C", "c", "C", "c", "C", "c", "D", "d", "D", "d", "E", "e", "E",
    "e", "E", "e", "E", "e", "E", "e", "G", "g", "G", "g", "G", "g", "G", "g", "H", "h", "H", "h",
    "I", "i", "I", "i", "I", "i", "I", "i", "I", "i", "IJ", "ij", "J", "j", "K", "k", "k", "L",
    "l", "L", "l", "L", "l", "L", "l", "L", "l", "N", "n", "N", "n", "N", "n", "'n", "NG", "ng",
    "O", "o", "O", "o", "O", "o", "OE", "oe", "R", "r", "R", "r", "R", "r", "S", "s", "S", "s",
    "S", "s", "S", "s", "T", "t", "T", "t", "T", "t", "U", "u", "U", "u", "U", "u", "U", "u", "U",
    "u", "U", "u", "W", "w", "Y", "y", "Y", "Z", "z", "Z", "z", "Z", "z", "s"]

/-- Greek. -/
def greekSpellings : SpellingBlock where
  first := 0x386
  spellings := [
    "A", ".", "E", "E", "I", "", "O", "", "U", "O", "i", "A", "B", "G", "D", "E", "Z", "E", "Th",
    "I", "K", "L", "M", "N", "X", "O", "P", "R", "", "S", "T", "U", "Ph", "Kh", "Ps", "O", "I",
    "U", "a", "e", "e", "i", "u", "a", "b", "g", "d", "e", "z", "e", "th", "i", "k", "l", "m",
    "n", "x", "o", "p", "r", "s", "s", "t", "u", "ph", "kh", "ps", "o", "i", "u", "o", "u", "o",
    "&"]

/-- Cyrillic. -/
def cyrillicSpellings : SpellingBlock where
  first := 0x400
  spellings := [
    "Ie", "Io", "Dj", "Gj", "Ie", "Dz", "I", "Yi", "J", "Lj", "Nj", "Tsh", "Kj", "I", "U", "Dzh",
    "A", "B", "V", "G", "D", "E", "Zh", "Z", "I", "I", "K", "L", "M", "N", "O", "P", "R", "S",
    "T", "U", "F", "Kh", "Ts", "Ch", "Sh", "Shch", "\"", "Y", "'", "E", "Iu", "Ia", "a", "b", "v",
    "g", "d", "e", "zh", "z", "i", "i", "k", "l", "m", "n", "o", "p", "r", "s", "t", "u", "f",
    "kh", "ts", "ch", "sh", "shch", "\"", "y", "'", "e", "iu", "ia", "ie", "io", "dj", "gj", "ie",
    "dz", "i", "yi", "j", "lj", "nj", "tsh", "kj", "i", "u", "dzh"]

/-- Further Cyrillic. -/
def cyrillicUpturnedSpellings : SpellingBlock where
  first := 0x490
  spellings := [
    "G'", "g'"]

/-- General punctuation. -/
def punctuationSpellings : SpellingBlock where
  first := 0x2000
  spellings := [
    " ", " ", " ", " ", " ", " ", " ", " ", " ", " ", " ", "", "", "", "", "", "-", "-", "-", "-",
    "--", "--", "||", "_", "'", "'", ",", "'", "\"", "\"", ",,", "\"", "+", "++", "*", "*>", ".",
    "..", "...", ".", "\n", "\n\n", "", "", "", "", "", " ", "%0", "%00", "'", "''", "'''", "`",
    "``", "```", "^", "<", ">", "*", "!!", "!?", "-", "_", "-", "^", "***", "--", "/", "-[", "]-",
    "??", "?!", "!?"]

/-- Superscripts and subscripts. -/
def scriptsSpellings : SpellingBlock where
  first := 0x2070
  spellings := [
    "0", "i", "", "", "4", "5", "6", "7", "8", "9", "+", "-", "=", "(", ")", "n", "0", "1", "2",
    "3", "4", "5", "6", "7", "8", "9", "+", "-", "=", "(", ")"]

/-- Currency signs. -/
def currencySpellings : SpellingBlock where
  first := 0x20A0
  spellings := [
    "ECU", "CL", "Cr", "FF", "L", "mil", "N", "Pts", "Rs", "W", "NS", "D", "EUR", "K", "T", "Dr"]

/-- Letterlike signs. -/
def letterlikeSpellings : SpellingBlock where
  first := 0x2116
  spellings := [
    "No ", "(P)", "P", "P", "Q", "R", "R", "R", "Rx", "", "(sm)", "TEL", "(tm)", "", "Z"]

/-- Kelvin and angstrom. -/
def unitsSpellings : SpellingBlock where
  first := 0x212A
  spellings := [
    "K", "A"]

/-- Fractions and Roman numerals. -/
def numberFormsSpellings : SpellingBlock where
  first := 0x2153
  spellings := [
    " 1/3", " 2/3", " 1/5", " 2/5", " 3/5", " 4/5", " 1/6", " 5/6", " 1/8", " 3/8", " 5/8",
    " 7/8", " 1/", "I", "II", "III", "IV", "V", "VI", "VII", "VIII", "IX", "X", "XI", "XII", "L",
    "C", "D", "M", "i", "ii", "iii", "iv", "v", "vi", "vii", "viii", "ix", "x", "xi", "xii", "l",
    "c", "d", "m"]

/-- Arrows. -/
def arrowsSpellings : SpellingBlock where
  first := 0x2190
  spellings := [
    "<-", "^", "->", "v", "<->"]

/-- Mathematical minus. -/
def minusSpellings : SpellingBlock where
  first := 0x2212
  spellings := [
    "-"]

/-- Circled numbers. -/
def circledSpellings : SpellingBlock where
  first := 0x2460
  spellings := [
    "1", "2", "3", "4", "5", "6", "7", "8", "9", "10", "11", "12", "13", "14", "15", "16", "17",
    "18", "19", "20"]

/-- Ideographic punctuation. -/
def ideographicMarksSpellings : SpellingBlock where
  first := 0x3000
  spellings := [
    " ", ", ", ". ", "\"", "[JIS]", "\"", "/", "0", "<", "> ", "<<", ">> ", "[", "] ", "\x7b",
    "\x7d "]

/-- Hiragana. -/
def hiraganaSpellings : SpellingBlock where
  first := 0x3041
  spellings := [
    "a", "a", "i", "i", "u", "u", "e", "e", "o", "o", "ka", "ga", "ki", "gi", "ku", "gu", "ke",
    "ge", "ko", "go", "sa", "za", "shi", "ji", "su", "zu", "se", "ze", "so", "zo", "ta", "da",
    "chi", "di", "tsu", "tsu", "du", "te", "de", "to", "do", "na", "ni", "nu", "ne", "no", "ha",
    "ba", "pa", "hi", "bi", "pi", "hu", "bu", "pu", "he", "be", "pe", "ho", "bo", "po", "ma",
    "mi", "mu", "me", "mo", "ya", "ya", "yu", "yu", "yo", "yo", "ra", "ri", "ru", "re", "ro",
    "wa", "wa", "wi", "we", "wo", "n", "vu"]

/-- Katakana. -/
def katakanaSpellings : SpellingBlock where
  first := 0x30A1
  spellings := [
    "a", "a", "i", "i", "u", "u", "e", "e", "o", "o", "ka", "ga", "ki", "gi", "ku", "gu", "ke",
    "ge", "ko", "go", "sa", "za", "shi", "ji", "su", "zu", "se", "ze", "so", "zo", "ta", "da",
    "chi", "di", "tsu", "tsu", "du", "te", "de", "to", "do", "na", "ni", "nu", "ne", "no", "ha",
    "ba", "pa", "hi", "bi", "pi", "hu", "bu", "pu", "he", "be", "pe", "ho", "bo", "po", "ma",
    "mi", "mu", "me", "mo", "ya", "ya", "yu", "yu", "yo", "yo", "ra", "ri", "ru", "re", "ro",
    "wa", "wa", "wi", "we", "wo", "n", "vu", "ka", "ke", "va", "vi", "ve", "vo", "*", ""]

/-- Ligatures. -/
def ligaturesSpellings : SpellingBlock where
  first := 0xFB00
  spellings := [
    "ff", "fi", "fl", "ffi", "ffl", "st", "st"]

/-- All blocks, in the order of their code points. -/
def spellingBlocks : List SpellingBlock := [
  latinSpellings, greekSpellings, cyrillicSpellings, cyrillicUpturnedSpellings,
  punctuationSpellings, scriptsSpellings, currencySpellings, letterlikeSpellings, unitsSpellings,
  numberFormsSpellings, arrowsSpellings, minusSpellings, circledSpellings,
  ideographicMarksSpellings, hiraganaSpellings, katakanaSpellings, ligaturesSpellings]

/-- Readings of Han characters, each closed by a space. -/
def hanSpellings : List (Char × String) := [
  ('一', "Yi "), ('七', "Qi "), ('三', "San "), ('上', "Shang "), ('下', "Xia "), ('不', "Bu "),
  ('世', "Shi "), ('东', "Dong "), ('中', "Zhong "), ('九', "Jiu "), ('二', "Er "), ('五', "Wu "),
  ('京', "Jing "), ('人', "Ren "), ('今', "Jin "), ('他', "Ta "), ('你', "Ni "), ('八', "Ba "),
  ('公', "Gong "), ('六', "Liu "), ('北', "Bei "), ('十', "Shi "), ('南', "Nan "), ('友', "You "),
  ('台', "Tai "), ('司', "Si "), ('名', "Ming "), ('四', "Si "), ('国', "Guo "), ('國', "Guo "),
  ('土', "Tu "), ('大', "Da "), ('天', "Tian "), ('好', "Hao "), ('字', "Zi "), ('学', "Xue "),
  ('學', "Xue "), ('家', "Jia "), ('小', "Xiao "), ('山', "Shan "), ('島', "Dao "), ('川', "Chuan "),
  ('州', "Zhou "), ('市', "Shi "), ('広', "Guang "), ('心', "Xin "), ('我', "Wo "), ('文', "Wen "),
  ('新', "Xin "), ('日', "Ri "), ('明', "Ming "), ('是', "Shi "), ('月', "Yue "), ('木', "Mu "),
  ('本', "Ben "), ('東', "Dong "), ('林', "Lin "), ('查', "Cha "), ('水', "Shui "), ('汉', "Han "),
  ('测', "Ce "), ('海', "Hai "), ('測', "Ce "), ('港', "Gang "), ('漢', "Han "), ('火', "Huo "),
  ('生', "Sheng "), ('田', "Tian "), ('电', "Dian "), ('界', "Jie "), ('白', "Bai "), ('的', "De "),
  ('社', "She "), ('紐', "Niu "), ('網', "Wang "), ('网', "Wang "), ('花', "Hua "), ('英', "Ying "),
  ('西', "Xi "), ('試', "Shi "), ('語', "Yu "), ('试', "Shi "), ('语', "Yu "), ('路', "Lu "),
  ('金', "Jin "), ('門', "Men "), ('门', "Men "), ('阪', "Ban "), ('雪', "Xue "), ('電', "Dian "),
  ('風', "Feng "), ('风', "Feng "), ('香', "Xiang "), ('高', "Gao "), ('黑', "Hei "), ('龍', "Long "),
  ('龙', "Long ")]

end Shortlink.Text
