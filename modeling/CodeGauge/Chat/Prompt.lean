/-!
This module contains the prompts for a language model: the question for a verdict on a text, and the
question for a review of a part of a file.
-/

namespace CodeGauge.Prompt


def system : String :=
  "You are a concise code-complexity analyzer. Respond with a single valid JSON object and nothing "
    ++ "else. Do NOT use markdown, do NOT wrap the JSON in backticks, and do NOT add any "
    ++ "explanation before or after the JSON."

/--
The lines of the question for a verdict, above the text.
-/
def analysisLines : List String :=
  [
    "Analyze the following code and return a JSON object with these fields:",
    "- timeComplexity (string, e.g., 'O(log n)')",
    "- timeComplexityType (one of: constant, logarithmic, linear, linearithmic, quadratic, "
      ++ "exponential)",
    "- timeExplanation (short, 1-2 sentences)",
    "- spaceComplexity (string, e.g., 'O(1)')",
    "- spaceComplexityType (same taxonomy as time)",
    "- spaceExplanation (short)",
    "- codeRating (integer 1..5)",
    "",
    "Respond ONLY with valid JSON. Do not include any extra commentary, markdown, or backticks. "
      ++ "The response MUST start with '\x7b' and end with '\x7d'.",
    "",
    "Code:",
    ""]

/--
The question for a verdict on a text.
-/
def analysis (code : String) : String :=
  "\n".intercalate (analysisLines ++ [code, ""])

def reviewSystem : String :=
  "You are a senior code reviewer. Analyze JavaScript/TypeScript/React code for bugs, code smells, "
    ++ "complexity, and maintainability. Respond in strict JSON."

/--
The lines of the question for a review, between the place of the chunk and its text.
-/
def reviewLines : List String :=
  [
    "",
    "Please provide:",
    "- issues: array of \x7b type: 'bug'|'complexity'|'smell'|'security'|'style', severity: "
      ++ "'low'|'medium'|'high', message: string, lineHint?: string \x7d",
    "- summary: short string",
    "- recommended_actions: short array of strings",
    "",
    "Code:",
    ""]

/--
The question for a review of a chunk of a file. Chunks count from zero, but are shown from one on.
-/
def review (code file : String) (chunk total : Int) : String :=
  let place := ["File: " ++ file, s!"Chunk: {chunk + 1}/{total}"]
  "\n".intercalate (place ++ reviewLines ++ [code, ""])

end CodeGauge.Prompt
