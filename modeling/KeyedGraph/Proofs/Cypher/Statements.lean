import KeyedGraph.Proofs.Cypher.Syntax
import KeyedGraph.Query
import Mathlib.Tactic.Common

/-!
# The statements of the store

The text of every statement is read as the command that it is meant to be, whatever the label: a
label is an identifier in backticks, so it is one token, and the tokens around it are always the
same.
-/

namespace KeyedGraph.Cypher

/-! ### Pieces around a label -/

lemma pieces_append (cs ds : List Char) : pieces (cs ++ ds) = cs.foldr push (pieces ds) := by
  rw [pieces, List.foldr_append, pieces]

/-- A word before a symbol is a piece of its own. -/
lemma foldr_push_word {cs : List Char} (h : cs.all Text.continuesIdentifier = true)
    (hne : cs ≠ []) (c : Char) (rest : List Piece) :
    cs.foldr push (.symbol c :: rest) = .word cs :: .symbol c :: rest := by
  induction cs with
  | nil => exact absurd rfl hne
  | cons d cs ih =>
    rw [List.all_cons, Bool.and_eq_true] at h
    rw [List.foldr_cons]
    cases cs with
    | nil => rw [List.foldr_nil, push, if_pos h.1, pushLetter]; simp
    | cons e cs => rw [ih h.2 (by simp), push, if_pos h.1, pushLetter]

/-- What the text of a statement stands for. -/
def command : Statement → Command
  | .probe => .number 1
  | .on .read label =>
    .on (.matchProperty "n" label.name "_key" "key") []
      (some { item := .node "n", limit := some (.number 1) })
  | .on .scan label =>
    .on (.matchAll "n" label.name) [.whereAtLeast "n" "_key" "start_key"]
      (some { item := .node "n", order := some ("n", "_key"),
              limit := some (.parameter "limit") })
  | .on .update label =>
    .on (.matchProperty "n" label.name "_key" "key") [.set "n" "values"]
      (some { item := .count (some "n") "matched" })
  | .on .insert label => .on (.create "n" label.name) [.set "n" "values"] none
  | .on .delete label =>
    .on (.matchProperty "n" label.name "_key" "key") [.detachDelete "n"]
      (some { item := .count none "deleted" })

/-- The text of a statement up to its label. -/
def before : Operation → String
  | .insert => "CREATE " ++ "(n:" ++ "`"
  | _ => "MATCH " ++ "(n:" ++ "`"

/-- The text of a statement behind its label. -/
def behind : Operation → String
  | .read => "`" ++ " \x7b_key: $key\x7d)" ++ " RETURN n LIMIT 1"
  | .scan => "`" ++ ")" ++ " WHERE n._key >= $start_key RETURN n ORDER BY n._key LIMIT $limit"
  | .update => "`" ++ " \x7b_key: $key\x7d)" ++ " SET n = $values RETURN count(n) AS matched"
  | .insert => "`" ++ ")" ++ " SET n = $values"
  | .delete => "`" ++ " \x7b_key: $key\x7d)" ++ " DETACH DELETE n RETURN count(*) AS deleted"

/-- The first word of a statement. -/
def keyword : Operation → Keyword
  | .insert => .CREATE
  | _ => .MATCH

/-- The tokens of a statement behind its label. -/
def tokensBehind : Operation → List Token
  | .read =>
    [.symbol '\x7b', .name "_key", .symbol ':', .parameter "key", .symbol '\x7d', .symbol ')',
      .keyword .RETURN, .name "n", .keyword .LIMIT, .number 1]
  | .scan =>
    [.symbol ')', .keyword .WHERE, .name "n", .symbol '.', .name "_key", .atLeast,
      .parameter "start_key", .keyword .RETURN, .name "n", .keyword .ORDER, .keyword .BY,
      .name "n", .symbol '.', .name "_key", .keyword .LIMIT, .parameter "limit"]
  | .update =>
    [.symbol '\x7b', .name "_key", .symbol ':', .parameter "key", .symbol '\x7d', .symbol ')',
      .keyword .SET, .name "n", .symbol '=', .parameter "values", .keyword .RETURN,
      .keyword .COUNT, .symbol '(', .name "n", .symbol ')', .keyword .AS, .name "matched"]
  | .insert => [.symbol ')', .keyword .SET, .name "n", .symbol '=', .parameter "values"]
  | .delete =>
    [.symbol '\x7b', .name "_key", .symbol ':', .parameter "key", .symbol '\x7d', .symbol ')',
      .keyword .DETACH, .keyword .DELETE, .name "n", .keyword .RETURN, .keyword .COUNT,
      .symbol '(', .symbol '*', .symbol ')', .keyword .AS, .name "deleted"]

lemma text_eq (operation : Operation) (label : Label) :
    (Statement.on operation label).text =
      before operation ++ label.name ++ behind operation := by
  cases operation <;>
    simp only [Statement.text, keyPattern, labelPattern, Label.quoted, before, behind,
      String.append_assoc]

/-- The tokens behind a label, if its quotes are closed. -/
def tokensOfRest : List Piece → Option (List Token)
  | .symbol '`' :: rest => some (rest.filterMap Piece.token?)
  | _ => none

lemma tokensOfRest_behind (operation : Operation) :
    tokensOfRest (pieces (behind operation).toList) = some (tokensBehind operation) := by
  cases operation <;> decide +kernel

lemma foldr_push_before (operation : Operation) (cs : List Char) (rest : List Piece) :
    (before operation).toList.foldr push (.word cs :: .symbol '`' :: rest) =
      .word (keyword operation).chars :: .gap :: .symbol '(' :: .word ['n'] :: .symbol ':' ::
        .quoted cs :: rest := by
  cases operation <;> rfl

/-- The label is one token, whatever its name is. -/
lemma tokens_text (operation : Operation) (label : Label) :
    tokens (Statement.on operation label).text =
      .keyword (keyword operation) :: .symbol '(' :: .name "n" :: .symbol ':' ::
        .quoted label.name :: tokensBehind operation := by
  have hr := tokensOfRest_behind operation
  rw [tokens, text_eq, String.toList_append, String.toList_append, List.append_assoc,
    pieces_append, pieces_append]
  generalize pieces (behind operation).toList = rest at hr
  unfold tokensOfRest at hr
  split at hr
  · rename_i rest
    rw [foldr_push_word (Text.all_continuesIdentifier label.isIdentifier_name)
      (Text.isIdentifier_ne_nil label.isIdentifier_name), foldr_push_before,
        ← Option.some.inj hr]
    have hk : wordToken (keyword operation).chars = .keyword (keyword operation) := by
      cases operation <;> rfl
    have hn : wordToken ['n'] = .name "n" := rfl
    simp [Piece.token?, List.filterMap_cons, hk, hn]
  · cases hr

/-- The text of every statement is read as it is meant. -/
theorem parse_text (statement : Statement) :
    parse statement.text = some (command statement) := by
  cases statement with
  | probe => decide +kernel
  | on operation label =>
    rw [parse, tokens_text]
    cases operation <;> rfl

end KeyedGraph.Cypher
