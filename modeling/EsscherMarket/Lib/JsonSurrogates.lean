import EsscherMarket.Lib.JsonText

/-!
# Lone surrogates

`json.loads` turns the escape of a lone surrogate into a character that cannot be encoded again;
`Json.loads` refuses it.  `replaceLone` writes the replacement character for each of them, so that
the rest of such a text can be read.
-/

namespace EsscherMarket.Lib.Json

/-- The text with `\\ufffd` for every escape of a lone surrogate. -/
def replaceLoneIn : Nat → List UInt8 → List UInt8
  | 0, bytes => bytes
  | fuel + 1, bytes =>
    match bytes with
    | 92 :: 117 :: rest =>
      match codeUnit rest with
      | none => 92 :: 117 :: replaceLoneIn fuel rest
      | some (code, after) =>
        let paired := decide (0xd800 ≤ code ∧ code ≤ 0xdbff) && (lowSurrogate after).isSome
        if paired then
          92 :: 117 :: (rest.take 10 ++ replaceLoneIn fuel (rest.drop 10))
        else if 0xd800 ≤ code ∧ code ≤ 0xdfff then
          utf8 "\\ufffd" ++ replaceLoneIn fuel after
        else 92 :: 117 :: (rest.take 4 ++ replaceLoneIn fuel after)
    | 92 :: b :: rest => 92 :: b :: replaceLoneIn fuel rest
    | b :: rest => b :: replaceLoneIn fuel rest
    | [] => []

def replaceLone (bytes : List UInt8) : List UInt8 := replaceLoneIn bytes.length bytes

def hasLone (bytes : List UInt8) : Bool := replaceLone bytes != bytes

example : hasLone (utf8 "\"\\ud83d\\ude00 \\\\ud800\"") = false ∧
    replaceLone (utf8 "\"\\ud800\\u0041\"") = utf8 "\"\\ufffd\\u0041\"" := by decide

end EsscherMarket.Lib.Json
