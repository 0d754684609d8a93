import Mathlib.Data.List.Basic
import PathSort.Query.Select

/-!
# Reading the text of a query

The SQL text of a query is a row of words with a space between any two. Where the names in a query
hold no space, the words can be found again, and what each word means follows from its place: four
words for the head, seven for each join, and, behind two more words, two for each ORDER BY term. So
the text can be read back, although a name may be empty or look like a keyword: a word is compared
with a keyword only where a join or the ordering has to begin.
-/

namespace PathSort

set_option autoImplicit false

namespace Text

/-- The words of a text between its spaces. Empty words count. -/
def words (text : String) : List String := (text.toList.splitOn ' ').map String.ofList

def OneWord (text : String) : Prop := ' ' ∉ text.toList

instance decidableOneWord (text : String) : Decidable (OneWord text) :=
  inferInstanceAs (Decidable (¬_))

def spaced (words : List String) : String := String.join (words.map (" " ++ ·))

theorem spaced_append (first second : List String) :
    spaced (first ++ second) = spaced first ++ spaced second := by
  rw [spaced, List.map_append, String.join_append]
  rfl

theorem intercalate_eq_spaced (first : String) (rest : List String) :
    " ".intercalate (first :: rest) = first ++ spaced rest := by
  induction rest generalizing first with
  | nil => simp [spaced]
  | cons second others ih =>
      rw [String.intercalate_cons_cons, ih, spaced, spaced, List.map_cons, String.join_cons,
        String.append_assoc, String.append_assoc]

theorem words_spaced {first : String} {rest : List String}
    (bare : ∀ word ∈ first :: rest, OneWord word) :
    words (first ++ spaced rest) = first :: rest := by
  have apart : ∀ word ∈ (first :: rest).map String.toList, ' ' ∉ word := by
    intro word listed
    obtain ⟨text, member, rfl⟩ := List.mem_map.mp listed
    exact bare text member
  rw [← intercalate_eq_spaced, words, String.toList_intercalate]
  have spaces : " ".toList = [' '] := by decide
  rw [spaces, List.splitOn_intercalate ' ' apart (by simp), List.map_map]
  simp [Function.comp_def]

end Text

structure Selection where
  table : String
  columns : String
  joins : List JoinClause
  orderBy : List OrderTerm
deriving DecidableEq, Repr

namespace JoinClause

def SpaceFree (clause : JoinClause) : Prop :=
  ∀ part ∈ [clause.table, clause.first, clause.operator, clause.second], Text.OneWord part

instance decidableSpaceFree (clause : JoinClause) : Decidable clause.SpaceFree :=
  inferInstanceAs (Decidable (∀ part ∈ _, _))

def words (clause : JoinClause) : List String :=
  ["LEFT", "JOIN", clause.table, "ON", clause.first, clause.operator, clause.second]

def readAll : List String → List JoinClause × List String
  | begin :: join :: table :: on :: first :: operator :: second :: rest =>
      if begin = "LEFT" then
        let (clauses, behind) := readAll rest
        (⟨table, first, operator, second⟩ :: clauses, behind)
      else ([], begin :: join :: table :: on :: first :: operator :: second :: rest)
  | rest => ([], rest)

theorem read_all_words (clauses : List JoinClause) {behind : List String}
    (ended : behind.head? ≠ some "LEFT") :
    readAll (clauses.flatMap words ++ behind) = (clauses, behind) := by
  induction clauses with
  | nil =>
      rw [List.flatMap_nil, List.nil_append]
      unfold readAll
      split
      · rename_i begin join table on first operator second rest
        have other : begin ≠ "LEFT" := fun same => ended (congrArg some same)
        rw [if_neg other]
      · rfl
  | cons clause rest ih =>
      rw [List.flatMap_cons, List.append_assoc, words]
      simp only [List.cons_append, List.nil_append, readAll, ih, if_true]

end JoinClause

namespace OrderTerm

/-- The words of ORDER BY terms. A comma follows each keyword but the last without a space. -/
def words : List OrderTerm → List String
  | [] => []
  | [term] => [term.column, term.direction.keyword]
  | term :: next :: rest =>
      term.column :: (term.direction.keyword ++ ",") :: words (next :: rest)

def readAll : List String → List OrderTerm
  | column :: keyword :: rest =>
      let direction := if keyword = "ASC" ∨ keyword = "ASC," then .asc else .desc
      ⟨column, direction⟩ :: readAll rest
  | _ => []

theorem read_all_words (terms : List OrderTerm) : readAll (words terms) = terms := by
  induction terms with
  | nil => rfl
  | cons term rest ih =>
      obtain ⟨column, direction⟩ := term
      cases rest with
      | nil => cases direction <;> rfl
      | cons next others =>
          rw [words, readAll, ih]
          cases direction <;> rfl

end OrderTerm

namespace SelectQuery

def selection (query : SelectQuery) : Selection :=
  ⟨query.table, query.columns, query.joins, query.orderBy⟩

def orderWords : List OrderTerm → List String
  | [] => []
  | terms => "ORDER" :: "BY" :: OrderTerm.words terms

def words (query : SelectQuery) : List String :=
  "SELECT" :: query.columns :: "FROM" :: query.table ::
    (query.joins.flatMap JoinClause.words ++ orderWords query.orderBy)

def ofWords? : List String → Option Selection
  | _ :: columns :: _ :: table :: rest =>
      let (joins, behind) := JoinClause.readAll rest
      some ⟨table, columns, joins, OrderTerm.readAll (behind.drop 2)⟩
  | _ => none

def ofSql? (text : String) : Option Selection := ofWords? (Text.words text)

theorem of_words_words (query : SelectQuery) : ofWords? query.words = some query.selection := by
  have ended : (orderWords query.orderBy).head? ≠ some "LEFT" := by
    cases query.orderBy with
    | nil => simp [orderWords]
    | cons term rest => simp [orderWords]
  have terms : OrderTerm.readAll ((orderWords query.orderBy).drop 2) = query.orderBy := by
    cases query.orderBy with
    | nil => rfl
    | cons term rest => exact OrderTerm.read_all_words (term :: rest)
  rw [words, ofWords?, JoinClause.read_all_words query.joins ended]
  simp only [terms]
  rfl

theorem join_spaced (clause : JoinClause) : Text.spaced clause.words = " " ++ clause.sql := by
  unfold JoinClause.sql
  rw [← String.toList_inj]
  simp [Text.spaced, JoinClause.words]

theorem joins_spaced (clauses : List JoinClause) :
    Text.spaced (clauses.flatMap JoinClause.words) = joinsSql clauses := by
  induction clauses with
  | nil => rfl
  | cons clause rest ih =>
      rw [List.flatMap_cons, Text.spaced_append, ih, join_spaced, joinsSql, joinsSql, List.map_cons,
        String.join_cons]

theorem terms_spaced (term : OrderTerm) (rest : List OrderTerm) :
    Text.spaced (OrderTerm.words (term :: rest)) =
      " " ++ ", ".intercalate ((term :: rest).map OrderTerm.sql) := by
  induction rest generalizing term with
  | nil =>
      rw [← String.toList_inj]
      simp [Text.spaced, OrderTerm.words, OrderTerm.sql]
  | cons next others ih =>
      have pair : Text.spaced [term.column, term.direction.keyword ++ ","] ++ " " =
          " " ++ (term.sql ++ ", ") := by
        rw [← String.toList_inj]
        simp [Text.spaced, OrderTerm.sql]
      have words_eq : OrderTerm.words (term :: next :: others) =
          [term.column, term.direction.keyword ++ ","] ++ OrderTerm.words (next :: others) := rfl
      rw [words_eq, Text.spaced_append, ih next, ← String.append_assoc, pair]
      simp only [List.map_cons, String.intercalate_cons_cons, String.append_assoc]

theorem order_spaced (terms : List OrderTerm) :
    Text.spaced (orderWords terms) = orderSql terms := by
  cases terms with
  | nil => rfl
  | cons term rest =>
      have words_eq : orderWords (term :: rest) =
          ["ORDER", "BY"] ++ OrderTerm.words (term :: rest) := rfl
      have head : Text.spaced ["ORDER", "BY"] ++ " " = " ORDER BY " := by decide +kernel
      rw [words_eq, Text.spaced_append, terms_spaced, ← String.append_assoc, head]
      rfl

theorem sql_eq_spaced (query : SelectQuery) :
    query.sql = "SELECT" ++ Text.spaced ([query.columns, "FROM", query.table] ++
      (query.joins.flatMap JoinClause.words ++ orderWords query.orderBy)) := by
  have head : "SELECT" ++ Text.spaced [query.columns, "FROM", query.table] =
      "SELECT " ++ query.columns ++ " FROM " ++ query.table := by
    rw [← String.toList_inj]
    simp [Text.spaced]
  rw [Text.spaced_append, Text.spaced_append, joins_spaced, order_spaced, ← String.append_assoc,
    ← String.append_assoc, head]
  rfl

structure SpaceFree (query : SelectQuery) : Prop where
  table_free : Text.OneWord query.table
  columns_free : Text.OneWord query.columns
  joins_free : ∀ clause ∈ query.joins, clause.SpaceFree
  terms_free : ∀ term ∈ query.orderBy, Text.OneWord term.column

instance decidableSpaceFree (query : SelectQuery) : Decidable query.SpaceFree :=
  decidable_of_iff
    (Text.OneWord query.table ∧ Text.OneWord query.columns ∧
      (∀ clause ∈ query.joins, clause.SpaceFree) ∧
      ∀ term ∈ query.orderBy, Text.OneWord term.column)
    ⟨fun ⟨table_free, columns_free, joins_free, terms_free⟩ =>
        ⟨table_free, columns_free, joins_free, terms_free⟩,
      fun free => ⟨free.table_free, free.columns_free, free.joins_free, free.terms_free⟩⟩

theorem join_words_bare {clause : JoinClause} (free : clause.SpaceFree) :
    ∀ word ∈ clause.words, Text.OneWord word := by
  simp only [JoinClause.SpaceFree, List.forall_mem_cons] at free
  obtain ⟨table_free, first_free, operator_free, second_free, -⟩ := free
  simp only [JoinClause.words, List.forall_mem_cons]
  exact ⟨by decide, by decide, table_free, by decide, first_free, operator_free, second_free,
    by simp⟩

theorem term_words_bare {terms : List OrderTerm}
    (free : ∀ term ∈ terms, Text.OneWord term.column) :
    ∀ word ∈ OrderTerm.words terms, Text.OneWord word := by
  have keyword_bare : ∀ direction : Direction, Text.OneWord direction.keyword ∧
      Text.OneWord (direction.keyword ++ ",") := by
    intro direction
    cases direction <;> decide
  induction terms with
  | nil => simp [OrderTerm.words]
  | cons term rest ih =>
      obtain ⟨column_free, later⟩ := List.forall_mem_cons.mp free
      cases rest with
      | nil =>
          simp only [OrderTerm.words, List.forall_mem_cons]
          exact ⟨column_free, (keyword_bare term.direction).1, by simp⟩
      | cons next others =>
          simp only [OrderTerm.words, List.forall_mem_cons]
          exact ⟨column_free, (keyword_bare term.direction).2, ih later⟩

theorem words_bare {query : SelectQuery} (free : query.SpaceFree) :
    ∀ word ∈ query.words, Text.OneWord word := by
  have order_bare : ∀ word ∈ orderWords query.orderBy, Text.OneWord word := by
    have terms_bare := term_words_bare free.terms_free
    cases named : query.orderBy with
    | nil => simp [orderWords]
    | cons term rest =>
        rw [named] at terms_bare
        simp only [orderWords, List.forall_mem_cons]
        exact ⟨by decide, by decide, terms_bare⟩
  have joins_bare : ∀ word ∈ query.joins.flatMap JoinClause.words, Text.OneWord word := by
    intro word listed
    obtain ⟨clause, made, member⟩ := List.mem_flatMap.mp listed
    exact join_words_bare (free.joins_free clause made) word member
  simp only [words, List.forall_mem_cons]
  exact ⟨by decide, free.columns_free, by decide, free.table_free,
    List.forall_mem_append.mpr ⟨joins_bare, order_bare⟩⟩

theorem of_sql_sql {query : SelectQuery} (free : query.SpaceFree) :
    ofSql? query.sql = some query.selection := by
  rw [ofSql?, sql_eq_spaced, Text.words_spaced]
  · exact of_words_words query
  · exact words_bare free

/-- Queries without spaces in their names have the same text only if it tells the same of them. -/
theorem sql_eq_iff {query other : SelectQuery} (free : query.SpaceFree)
    (other_free : other.SpaceFree) :
    query.sql = other.sql ↔
      query.table = other.table ∧ query.columns = other.columns ∧ query.joins = other.joins ∧
        query.orderBy = other.orderBy := by
  constructor
  · intro same
    have read := of_sql_sql free
    rw [same, of_sql_sql other_free] at read
    have told : query.selection = other.selection := (Option.some.inj read).symm
    simpa only [selection, Selection.mk.injEq] using told
  · rintro ⟨table_eq, columns_eq, joins_eq, order_eq⟩
    rw [sql, sql, table_eq, columns_eq, joins_eq, order_eq]

/-- With a space in a name, the text of a join can be part of the name of the table. -/
example :
    (ofTable "posts LEFT JOIN users ON a = b").sql =
      SelectQuery.sql ⟨"posts", none, [⟨"users", "a", "=", "b"⟩], ["users"], []⟩ := by
  decide +kernel

end SelectQuery

end PathSort
