import WordHunt.Exchange.Message

/-!
What a scribe is asked: to put a player's own words into clue lines.
-/

namespace WordHunt.Scribe

def instruction : String :=
  "You convert a player's description of Wordle clues into a rule language.\n" ++
  "Answer with a JSON object of the form \x7b\"rules\": \"<rules>\"\x7d where <rules> is\n" ++
  "newline-separated lines, each one of:\n" ++
  "<LETTER> AT <POSITION>                      the letter is fixed at a 1-based position (1-9)\n" ++
  "<LETTER> IN WORD                            the letter is in the word, position unknown\n" ++
  "<LETTER> IN WORD, NOT AT <POS>, <POS>, ...  the letter is in the word but not at these positions\n" ++
  "NO <LETTER>, <LETTER>, ...                  these letters are not in the word\n" ++
  "LENGTH: <N>                                 the word has N letters (default 5)\n" ++
  "Use upper-case letters. Output nothing except the JSON object."

def message (role content : String) : Json :=
  .ofMembers [("role", .string role), ("content", .string content)]

def prompt (model text : String) : Json :=
  .ofMembers
    [("model", .string model),
     ("temperature", .number (.integer 0)),
     ("response_format", .ofMembers [("type", .string "json_object")]),
     ("messages", .array [message "system" instruction, message "user" text])]

end WordHunt.Scribe
