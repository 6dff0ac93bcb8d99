import TypedQuery.Adaptor.Table
import TypedQuery.Proofs.DeclaredConstraints
import TypedQuery.Proofs.Handed
import TypedQuery.Proofs.TableDefinitions

/-!
# Rules for keys

Engines take one primary key for a table, and one of them counts upwards only where an
integer is the key.  A table definition is not held against these rules.  It declares a key
for each column that is marked as one, and it says that the key is counted for each that
the database fills in.  So the text obeys the rules just if the schema does, and where it
does not, the text is sent all the same and it is the engine that refuses.
-/

namespace TypedQuery

theorem forall₂_mem {α β : Type} {relation : α → β → Prop} {entries : List α}
    {entries' : List β} (h : List.Forall₂ relation entries entries') :
    List.Forall₂
      (fun entry entry' => entry ∈ entries ∧ entry' ∈ entries' ∧ relation entry entry')
      entries entries' := by
  induction h with
  | nil => exact .nil
  | cons hentry hentries ih =>
      refine .cons ⟨List.mem_cons_self, List.mem_cons_self, hentry⟩ ?_
      refine ih.imp fun entry entry' hrest => ?_
      exact ⟨List.mem_cons_of_mem _ hrest.1, List.mem_cons_of_mem _ hrest.2.1, hrest.2.2⟩

namespace Token

/-! ## Places of words -/

variable {word : Token} {phrase first second tokens : List Token}

/-- The number of places where a phrase stands. -/
def occurrences (phrase tokens : List Token) : Nat :=
  tokens.tails.countP fun tail => phrase <+: tail

/-- Wherever the word stands, the phrase comes after it. -/
def Followed (word : Token) (phrase tokens : List Token) : Prop :=
  ∀ before after, tokens = before ++ word :: after → phrase <+: after

/-- Wherever the word stands, the phrase comes before it. -/
def Preceded (phrase : List Token) (word : Token) (tokens : List Token) : Prop :=
  ∀ before after, tokens = before ++ word :: after → phrase <:+ before

/-- A word in a list of two parts stands in one of them. -/
theorem split_append {before after : List Token} (h : first ++ second = before ++ word :: after) :
    (∃ middle, first = before ++ word :: middle ∧ after = middle ++ second) ∨
      ∃ middle, before = first ++ middle ∧ second = middle ++ word :: after := by
  rcases List.append_eq_append_iff.mp h with
    ⟨middle, hbefore, hsecond⟩ | ⟨middle, hfirst, hword⟩
  · exact .inr ⟨middle, hbefore, hsecond⟩
  · cases middle with
    | nil => exact .inr ⟨[], by rw [hfirst, List.append_nil, List.append_nil], hword.symm⟩
    | cons token middle =>
        obtain ⟨rfl, hafter⟩ := List.cons.inj hword
        exact .inl ⟨middle, hfirst, hafter⟩

theorem Followed.append (hfirst : Followed word phrase first)
    (hsecond : Followed word phrase second) : Followed word phrase (first ++ second) := by
  intro before after h
  rcases split_append h with ⟨middle, hmiddle, rfl⟩ | ⟨middle, -, hmiddle⟩
  · exact (hfirst before middle hmiddle).trans (List.prefix_append _ _)
  · exact hsecond middle after hmiddle

theorem Preceded.append (hfirst : Preceded phrase word first)
    (hsecond : Preceded phrase word second) : Preceded phrase word (first ++ second) := by
  intro before after h
  rcases split_append h with ⟨middle, hmiddle, -⟩ | ⟨middle, rfl, hmiddle⟩
  · exact hfirst before middle hmiddle
  · exact (hsecond middle after hmiddle).trans (List.suffix_append _ _)

theorem followed_of_not_mem (h : word ∉ tokens) : Followed word phrase tokens := by
  rintro before after rfl
  exact absurd (List.mem_append_right before List.mem_cons_self) h

theorem preceded_of_not_mem (h : word ∉ tokens) : Preceded phrase word tokens := by
  rintro before after rfl
  exact absurd (List.mem_append_right before List.mem_cons_self) h

/-- A word that stands in one place is followed and preceded by what is around it. -/
theorem eq_of_split {before after : List Token} (hfirst : word ∉ first)
    (hsecond : word ∉ second) (h : first ++ word :: second = before ++ word :: after) :
    first = before ∧ second = after := by
  obtain ⟨hbefore, -, hafter⟩ := (List.append_cons_inj_of_notMem hfirst hsecond).mp h
  exact ⟨hbefore, hafter⟩

/-- What holds of pieces and of commas holds of the pieces with commas between them. -/
theorem intercalate_of_append {property : List Token → Prop} (hnil : property [])
    (hcomma : property [.mark ','])
    (happend : ∀ {first second},
      property first → property second → property (first ++ second))
    {pieces : List (List Token)} (h : ∀ piece ∈ pieces, property piece) :
    property ([.mark ','].intercalate pieces) := by
  induction pieces with
  | nil => exact hnil
  | cons piece pieces ih =>
      obtain ⟨hpiece, hpieces⟩ := List.forall_mem_cons.mp h
      cases pieces with
      | nil =>
          rw [List.intercalate_singleton]
          exact hpiece
      | cons next pieces =>
          rw [List.intercalate_cons_cons]
          exact happend (happend hpiece hcomma) (ih hpieces)

theorem infix_intercalate {pieces : List (List Token)} {piece : List Token}
    (h : piece ∈ pieces) : piece <:+: [.mark ','].intercalate pieces := by
  induction pieces with
  | nil => cases h
  | cons first pieces ih =>
      cases pieces with
      | nil =>
          have hone : [Token.mark ','].intercalate [first] = piece :=
            List.intercalate_singleton.trans (List.mem_singleton.mp h).symm
          exact ⟨[], [], (List.append_nil piece).trans hone.symm⟩
      | cons next pieces =>
          rw [List.intercalate_cons_cons]
          rcases List.mem_cons.mp h with rfl | hpiece
          · exact (List.prefix_append _ _).isInfix.trans (List.prefix_append _ _).isInfix
          · exact (ih hpiece).trans (List.suffix_append _ _).isInfix

/-- Where a word always opens a phrase, the phrase is counted by the word. -/
theorem occurrences_eq_count (h : Followed word phrase tokens) :
    occurrences (word :: phrase) tokens = tokens.count word := by
  induction tokens with
  | nil => rfl
  | cons token tokens ih =>
      have htokens : Followed word phrase tokens := by
        rintro before after rfl
        exact h (token :: before) after rfl
      have hfirst : word :: phrase <+: token :: tokens ↔ token = word := by
        rw [List.cons_prefix_cons]
        constructor
        · exact fun hprefix => hprefix.1.symm
        · rintro rfl
          exact ⟨rfl, h [] tokens rfl⟩
      have hoccurrences : occurrences (word :: phrase) (token :: tokens) =
          occurrences (word :: phrase) tokens +
            if word :: phrase <+: token :: tokens then 1 else 0 := by
        have htails : (token :: tokens).tails = (token :: tokens) :: tokens.tails := by
          rw [List.tails]
        rw [occurrences, htails, List.countP_cons]
        simp only [decide_eq_true_eq]
        rfl
      rw [hoccurrences, ih htokens, List.count_cons]
      simp only [hfirst, beq_iff_eq]

end Token

namespace ColumnClause

/-- The words that open the clauses about keys. -/
def keyWords : List String :=
  ["PRIMARY", "AUTOINCREMENT"]

theorem primary_mem_keyWords : "PRIMARY" ∈ keyWords :=
  List.mem_cons_self

theorem autoIncrement_mem_keyWords : "AUTOINCREMENT" ∈ keyWords :=
  List.mem_cons_of_mem _ List.mem_cons_self

theorem mem_openings_of_mem_keyWords : ∀ letters ∈ keyWords, letters ∈ openings := by
  decide

end ColumnClause

namespace ColumnDef

open ColumnClause (keyWords primary_mem_keyWords autoIncrement_mem_keyWords)

/-! ## Keys of columns -/

variable {column : ColumnDef} {dialect : Dialect} {clauses : List ColumnClause}

/-- The definition says that the key is counted. -/
def isCounted (column : ColumnDef) (dialect : Dialect) : Bool :=
  column.constraints.isGenerated && dialect == .sqlite

theorem primaryKey_of_isCounted (h : column.isCounted dialect = true) :
    column.constraints.primaryKey = true := by
  rw [isCounted, Constraints.isGenerated, Bool.and_eq_true, Bool.and_eq_true] at h
  exact h.1.1

def keyTokens (column : ColumnDef) (dialect : Dialect) : List Token :=
  if column.constraints.primaryKey = true then
    ColumnClause.primaryKey.tokens ++
      if column.isCounted dialect = true then ColumnClause.autoIncrement.tokens else []
  else []

theorem keyTokens_of_isCounted (h : column.isCounted dialect = true) :
    column.keyTokens dialect =
      ColumnClause.primaryKey.tokens ++ [.word "AUTOINCREMENT"] := by
  rw [keyTokens, if_pos (primaryKey_of_isCounted h), if_pos h]
  rfl

/-- Clauses that are not about keys have none of the words. -/
theorem word_not_mem_tokens (h : ∀ clause ∈ clauses, clause.opening ∉ keyWords)
    {letters : String} (hletters : letters ∈ keyWords) :
    .word letters ∉ column.tokens dialect clauses := by
  intro hmem
  obtain ⟨clause, hclause, rfl⟩ :=
    exists_clause_of_mem (ColumnClause.mem_openings_of_mem_keyWords letters hletters) hmem
  exact h clause hclause hletters

theorem word_not_mem_tokens_nil {letters : String} (h : letters ∈ keyWords) :
    .word letters ∉ column.tokens dialect [] :=
  word_not_mem_tokens (fun _ hclause => absurd hclause List.not_mem_nil) h

theorem tokens_append (column : ColumnDef) (dialect : Dialect)
    (clauses more : List ColumnClause) :
    column.tokens dialect (clauses ++ more) =
      column.tokens dialect clauses ++ more.flatMap ColumnClause.tokens := by
  rw [tokens, tokens, List.flatMap_append, List.cons_append, List.append_assoc]

/-- The clauses about the key come first, and all others are about something else. -/
theorem exists_clauses_eq (h : column.clauses dialect = .ok clauses) :
    ∃ others : List ColumnClause, (∀ clause ∈ others, clause.opening ∉ keyWords) ∧
      column.tokens dialect clauses =
        column.tokens dialect [] ++
          (column.keyTokens dialect ++ others.flatMap ColumnClause.tokens) := by
  obtain ⟨references, hreferences, rfl⟩ := clauses_eq_ok_iff.mp h
  have hrest : ∀ clause ∈ column.lengthClauses ++ references, clause.opening ∉ keyWords := by
    intro clause hclause
    rcases List.mem_append.mp hclause with hlength | hreference
    · rw [opening_of_mem_lengthClauses hlength]
      decide
    · rw [opening_of_mem_referenceClauses hreferences hreference]
      decide
  have hclauses : column.keyClauses dialect ++ column.lengthClauses ++ references =
      [] ++ (column.keyClauses dialect ++ (column.lengthClauses ++ references)) :=
    List.append_assoc _ _ _
  rw [hclauses, tokens_append]
  by_cases hkey : column.constraints.primaryKey = true
  · refine ⟨column.lengthClauses ++ references, hrest, ?_⟩
    have hkeyClauses : (column.keyClauses dialect).flatMap ColumnClause.tokens =
        column.keyTokens dialect := by
      dsimp only [keyClauses]
      rw [keyTokens, if_pos hkey, if_pos hkey, isCounted, Constraints.isGenerated, hkey,
        Bool.true_and]
      split
      · rfl
      · rfl
    rw [List.flatMap_append, hkeyClauses]
  · refine ⟨column.keyClauses dialect ++ (column.lengthClauses ++ references), ?_, ?_⟩
    · intro clause hclause
      rcases List.mem_append.mp hclause with hclause | hclause
      · rw [mem_keyClauses_iff, if_neg hkey] at hclause
        rcases hclause with ⟨-, rfl⟩ | ⟨-, rfl⟩
        · decide
        · decide
      · exact hrest clause hclause
    · rw [keyTokens, if_neg hkey, List.nil_append]

/-- The tokens of a column: those about its key stand between tokens that have no word
about keys. -/
theorem exists_tokens_eq (h : column.clauses dialect = .ok clauses) :
    ∃ rest, (∀ letters ∈ keyWords, .word letters ∉ rest) ∧
      column.tokens dialect clauses =
        column.tokens dialect [] ++ (column.keyTokens dialect ++ rest) := by
  obtain ⟨others, hothers, htokens⟩ := exists_clauses_eq h
  refine ⟨others.flatMap ColumnClause.tokens, ?_, htokens⟩
  intro letters hletters hmem
  have hnone : .word letters ∉ column.tokens dialect others :=
    word_not_mem_tokens hothers hletters
  exact hnone (List.mem_cons_of_mem _ (List.mem_append_right _ hmem))

theorem count_tokens (h : column.clauses dialect = .ok clauses) {letters : String}
    (hletters : letters ∈ keyWords) :
    (column.tokens dialect clauses).count (.word letters) =
      (column.keyTokens dialect).count (.word letters) := by
  obtain ⟨rest, hrest, htokens⟩ := exists_tokens_eq h
  rw [htokens, List.count_append, List.count_append,
    List.count_eq_zero_of_not_mem (word_not_mem_tokens_nil hletters),
    List.count_eq_zero_of_not_mem (hrest letters hletters), Nat.zero_add, Nat.add_zero]

/-- A column has one key, if it is marked as one. -/
theorem count_primary (h : column.clauses dialect = .ok clauses) :
    (column.tokens dialect clauses).count (.word "PRIMARY") =
      if column.constraints.primaryKey = true then 1 else 0 := by
  rw [count_tokens h primary_mem_keyWords, keyTokens]
  split
  · cases column.isCounted dialect <;> rfl
  · rfl

theorem autoIncrement_not_mem_keyTokens (h : column.isCounted dialect ≠ true) :
    .word "AUTOINCREMENT" ∉ column.keyTokens dialect := by
  rw [keyTokens, if_neg h]
  split
  · decide
  · decide

/-- The key is counted once, if the database fills it in and the dialect says so. -/
theorem count_autoIncrement (h : column.clauses dialect = .ok clauses) :
    (column.tokens dialect clauses).count (.word "AUTOINCREMENT") =
      if column.isCounted dialect = true then 1 else 0 := by
  rw [count_tokens h autoIncrement_mem_keyWords]
  by_cases hcounted : column.isCounted dialect = true
  · rw [if_pos hcounted, keyTokens_of_isCounted hcounted]
    rfl
  · rw [if_neg hcounted]
    exact List.count_eq_zero_of_not_mem (autoIncrement_not_mem_keyTokens hcounted)

/-- What declares a key says so in full. -/
theorem followed_primary (h : column.clauses dialect = .ok clauses) :
    Token.Followed (.word "PRIMARY") [.word "KEY"] (column.tokens dialect clauses) := by
  have hkey : Token.Followed (.word "PRIMARY") [.word "KEY"] (column.keyTokens dialect) := by
    rw [keyTokens]
    split
    · have hafter : .word "PRIMARY" ∉ .word "KEY" ::
          if column.isCounted dialect = true then ColumnClause.autoIncrement.tokens else [] := by
        cases column.isCounted dialect <;> decide
      intro before after hsplit
      obtain ⟨-, rfl⟩ := Token.eq_of_split List.not_mem_nil hafter hsplit
      exact List.prefix_append [_] _
    · exact Token.followed_of_not_mem List.not_mem_nil
  obtain ⟨rest, hrest, htokens⟩ := exists_tokens_eq h
  rw [htokens]
  have hfront : .word "PRIMARY" ∉ column.tokens dialect [] :=
    word_not_mem_tokens_nil primary_mem_keyWords
  exact (Token.followed_of_not_mem hfront).append
    (hkey.append (Token.followed_of_not_mem (hrest _ primary_mem_keyWords)))

/-- What counts a key is preceded by the key, and by what stands before that. -/
theorem preceded_autoIncrement (h : column.clauses dialect = .ok clauses) {phrase : List Token}
    (hphrase : column.isCounted dialect = true →
      phrase <:+ column.tokens dialect [] ++ ColumnClause.primaryKey.tokens) :
    Token.Preceded phrase (.word "AUTOINCREMENT") (column.tokens dialect clauses) := by
  have hnil : .word "AUTOINCREMENT" ∉ column.tokens dialect [] :=
    word_not_mem_tokens_nil autoIncrement_mem_keyWords
  obtain ⟨rest, hrest, htokens⟩ := exists_tokens_eq h
  rw [htokens, ← List.append_assoc]
  refine Token.Preceded.append ?_
    (Token.preceded_of_not_mem (hrest _ autoIncrement_mem_keyWords))
  by_cases hcounted : column.isCounted dialect = true
  · have hfront : .word "AUTOINCREMENT" ∉
        column.tokens dialect [] ++ ColumnClause.primaryKey.tokens := by
      rw [List.mem_append, not_or]
      exact ⟨hnil, by decide⟩
    intro before after hsplit
    rw [keyTokens_of_isCounted hcounted, ← List.append_assoc] at hsplit
    obtain ⟨rfl, -⟩ := Token.eq_of_split hfront List.not_mem_nil hsplit
    exact hphrase hcounted
  · apply Token.preceded_of_not_mem
    rw [List.mem_append, not_or]
    exact ⟨hnil, autoIncrement_not_mem_keyTokens hcounted⟩

/-! ### Counted integers -/

/-- If the key is counted, its type is the one of integers. -/
def CountsInteger (column : ColumnDef) : Prop :=
  column.constraints.primaryKey = true → column.constraints.autoIncrement = true →
    column.type.word .sqlite column.constraints = "INTEGER"

theorem isCounted_sqlite_iff :
    column.isCounted .sqlite = true ↔
      column.constraints.primaryKey = true ∧ column.constraints.autoIncrement = true := by
  rw [isCounted, Constraints.isGenerated, Bool.and_eq_true, Bool.and_eq_true]
  exact and_iff_left rfl

def integerKey : List Token :=
  .word "INTEGER" :: ColumnClause.primaryKey.tokens

/-- In the dialect that counts by a word, the name of a type is one word. -/
theorem tokens_sqlite_nil (column : ColumnDef) :
    column.tokens .sqlite [] =
      [.ident column.name, .word (column.type.word .sqlite column.constraints)] := by
  have hnames : ∀ name ∈ ["BLOB", "INTEGER", "TEXT", "REAL"],
      Token.ofText (" " ++ name) = [.word name] := by
    decide
  have hmem : column.type.word .sqlite column.constraints ∈
      ["BLOB", "INTEGER", "TEXT", "REAL"] := by
    cases column.type <;> simp [ColumnType.word]
  rw [tokens, hnames _ hmem]
  rfl

theorem preceded_integerKey (h : column.clauses .sqlite = .ok clauses)
    (hinteger : column.CountsInteger) :
    Token.Preceded integerKey (.word "AUTOINCREMENT") (column.tokens .sqlite clauses) := by
  apply preceded_autoIncrement h
  intro hcounted
  obtain ⟨hkey, hincrement⟩ := isCounted_sqlite_iff.mp hcounted
  rw [tokens_sqlite_nil, hinteger hkey hincrement]
  exact List.suffix_append [_] integerKey

/-- The type that a counted key is declared with is what stands before the key. -/
theorem countsInteger_of_preceded (h : column.clauses .sqlite = .ok clauses)
    {tokens : List Token} (hpart : column.tokens .sqlite clauses <:+: tokens)
    (hpreceded : Token.Preceded integerKey (.word "AUTOINCREMENT") tokens) :
    column.CountsInteger := by
  intro hkey hincrement
  obtain ⟨rest, -, htokens⟩ := exists_tokens_eq h
  rw [tokens_sqlite_nil,
    keyTokens_of_isCounted (isCounted_sqlite_iff.mpr ⟨hkey, hincrement⟩)] at htokens
  obtain ⟨front, back, rfl⟩ := hpart
  have hsplit : front ++ column.tokens .sqlite clauses ++ back =
      front ++ [.ident column.name] ++
          .word (column.type.word .sqlite column.constraints) ::
            ColumnClause.primaryKey.tokens ++
        .word "AUTOINCREMENT" :: (rest ++ back) := by
    simp [htokens]
  obtain ⟨before, hbefore⟩ := hpreceded _ _ hsplit
  obtain ⟨-, hwords⟩ := List.append_inj' hbefore rfl
  exact (Token.word.inj (List.cons.inj hwords).1).symm

end ColumnDef

namespace Model

/-! ## Definitions that are sent -/

variable {σ : Type} [Adaptor σ]

/-- A definition is sent as it is, and what the engine says against it is a failure of the
schema. -/
theorem createTable_of_createText {model : Model} {mode : CreateMode} {before : Handed σ}
    {text : String} (h : model.schema.createText (Adaptor.dialect before) mode = .ok text) :
    (model.createTable mode before).2.statements = before.statements ++ [.raw text] ∧
      ∀ error, (Adaptor.executeBatch text before).1 = .error error → error.kind = .query →
        (model.createTable mode before).1 = .error ⟨.schema, error.message⟩ := by
  have hcreate : model.createTable mode before =
      Adaptor.mapError Error.inSchema (Adaptor.executeBatch text) before := by
    rw [createTable, h]
  have hsent : (Adaptor.executeBatch text before).2.statements =
      before.statements ++ [.raw text] :=
    rfl
  rw [hcreate, Adaptor.mapError]
  generalize Adaptor.executeBatch text before = outcome at hsent
  obtain ⟨result, after⟩ := outcome
  cases result with
  | ok value =>
      refine ⟨hsent, ?_⟩
      intro error herror
      cases herror
  | error refusal =>
      refine ⟨hsent, ?_⟩
      rintro error ⟨⟩ hquery
      exact congrArg Except.error (if_pos hquery)

end Model

namespace Schema

open ColumnClause (keyWords primary_mem_keyWords autoIncrement_mem_keyWords)

/-! ## Keys of tables -/

variable {schema : Schema} {dialect : Dialect} {mode : CreateMode} {text : String}

/-- The tokens are those that a column is defined by. -/
def Defines (dialect : Dialect) (piece : List Token) (column : ColumnDef) : Prop :=
  ∃ clauses, column.clauses dialect = .ok clauses ∧ piece = column.tokens dialect clauses

def headTokens (schema : Schema) (mode : CreateMode) : List Token :=
  createTokens mode ++ [.ident schema.table, .mark '(']

/-- A text is read as the pieces that define the columns, with commas between them. -/
theorem tokens_of_createText (h : schema.createText dialect mode = .ok text) :
    ∃ pieces, List.Forall₂ (Defines dialect) pieces schema.columns ∧
      Token.ofText text =
        schema.headTokens mode ++ ([.mark ','].intercalate pieces ++ [.mark ')']) := by
  obtain ⟨-, fragments, hfragments, rfl⟩ := createText_eq_ok_iff.mp h
  have hcolumns := Fragment.definesColumn_of_forall₂ hfragments
  refine ⟨fragments.map fun fragment => Fragment.tokensFrom dialect 0 fragment.chunks, ?_, ?_⟩
  · rw [List.forall₂_map_left_iff]
    refine hfragments.imp fun fragment column hcolumn => ?_
    obtain ⟨clauses, hclauses, -, -, htokens⟩ := ColumnDef.tokens_of_fragment hcolumn
    exact ⟨clauses, hclauses, htokens 0⟩
  · rw [(legible_assemble hcolumns).ofText_render, tokens_assemble hcolumns,
      Fragment.tokensFrom_join hcolumns, headTokens, List.append_assoc]
    rfl

/-- What stands once in the definition of each column of a sort stands as often in the
text as there are such columns. -/
theorem count_intercalate {token : Token} (hcomma : token ≠ .mark ',')
    {sort : ColumnDef → Bool} {pieces : List (List Token)} {columns : List ColumnDef}
    (h : List.Forall₂
      (fun piece column => piece.count token = if sort column = true then 1 else 0)
      pieces columns) :
    ([.mark ','].intercalate pieces).count token = columns.countP sort := by
  induction h with
  | nil => rfl
  | @cons piece column pieces columns hpiece hpieces ih =>
      rw [List.countP_cons, ← ih, Nat.add_comm, ← hpiece]
      cases pieces with
      | nil =>
          rw [List.intercalate_singleton]
          rfl
      | cons next pieces =>
          have hnone : List.count token [.mark ','] = 0 :=
            List.count_eq_zero_of_not_mem (by simpa using hcomma)
          rw [List.intercalate_cons_cons, List.count_append, List.count_append, hnone,
            Nat.add_zero]

/-- Around the definitions of columns nothing is said about keys. -/
theorem keyWord_not_mem (schema : Schema) (mode : CreateMode) {letters : String}
    (h : letters ∈ keyWords) :
    .word letters ∉ schema.headTokens mode ∧ .word letters ∉ [Token.mark ')'] := by
  have hwords : ∀ letters ∈ keyWords,
      ∀ token ∈ createTokens mode, token ≠ .word letters := by
    cases mode <;> decide
  rw [headTokens, List.mem_append, not_or]
  refine ⟨⟨fun hmem => hwords letters h _ hmem rfl, ?_⟩, ?_⟩
  · simp
  · simp

theorem count_of_createText (h : schema.createText dialect mode = .ok text) {letters : String}
    (hletters : letters ∈ keyWords) {sort : ColumnDef → Bool}
    (hcount : ∀ {column : ColumnDef} {clauses}, column.clauses dialect = .ok clauses →
      (column.tokens dialect clauses).count (.word letters) =
        if sort column = true then 1 else 0) :
    (Token.ofText text).count (.word letters) = schema.columns.countP sort := by
  obtain ⟨pieces, hpieces, htokens⟩ := tokens_of_createText h
  obtain ⟨hfront, hback⟩ := keyWord_not_mem schema mode hletters
  have hcolumns : ([.mark ','].intercalate pieces).count (.word letters) =
      schema.columns.countP sort := by
    apply count_intercalate (by simp)
    refine hpieces.imp fun piece column hdefines => ?_
    obtain ⟨clauses, hclauses, rfl⟩ := hdefines
    exact hcount hclauses
  rw [htokens, List.count_append, List.count_append, List.count_eq_zero_of_not_mem hfront,
    List.count_eq_zero_of_not_mem hback, hcolumns, Nat.zero_add, Nat.add_zero]

/-- What holds around the columns and of each column holds of the text. -/
theorem property_of_createText (h : schema.createText dialect mode = .ok text)
    {property : List Token → Prop} {letters : String} (hletters : letters ∈ keyWords)
    (hnone : ∀ {tokens}, .word letters ∉ tokens → property tokens)
    (happend : ∀ {first second},
      property first → property second → property (first ++ second))
    (hcolumn : ∀ column ∈ schema.columns, ∀ clauses, column.clauses dialect = .ok clauses →
      property (column.tokens dialect clauses)) :
    property (Token.ofText text) := by
  obtain ⟨pieces, hpieces, htokens⟩ := tokens_of_createText h
  obtain ⟨hfront, hback⟩ := keyWord_not_mem schema mode hletters
  have hpiece : ∀ piece ∈ pieces, property piece := by
    refine forall_mem_of_forall₂ ?_ (forall₂_mem hpieces)
    rintro piece column ⟨-, hmem, clauses, hclauses, rfl⟩
    exact hcolumn column hmem clauses hclauses
  rw [htokens]
  refine happend (hnone hfront) (happend ?_ (hnone hback))
  exact Token.intercalate_of_append (hnone List.not_mem_nil) (hnone (by simp)) happend hpiece

/-- The text declares a key for each column that is marked as one. -/
theorem occurrences_primaryKey (h : schema.createText dialect mode = .ok text) :
    Token.occurrences ColumnClause.primaryKey.tokens (Token.ofText text) =
      schema.columns.countP fun column => column.constraints.primaryKey := by
  have hfollowed : Token.Followed (.word "PRIMARY") [.word "KEY"] (Token.ofText text) :=
    property_of_createText h primary_mem_keyWords Token.followed_of_not_mem Token.Followed.append
      fun column _ clauses => ColumnDef.followed_primary
  rw [← count_of_createText h primary_mem_keyWords ColumnDef.count_primary]
  exact Token.occurrences_eq_count hfollowed

/-- What is counted is a key that is an integer, just if the database fills in no other. -/
theorem preceded_integerKey_iff (h : schema.createText .sqlite mode = .ok text) :
    Token.Preceded ColumnDef.integerKey (.word "AUTOINCREMENT") (Token.ofText text) ↔
      ∀ column ∈ schema.columns, column.CountsInteger := by
  constructor
  · intro hpreceded
    obtain ⟨pieces, hpieces, htokens⟩ := tokens_of_createText h
    refine forall_mem_of_forall₂ ?_ (forall₂_mem hpieces).flip
    rintro column piece ⟨hpiece, -, clauses, hclauses, rfl⟩
    have hpart : column.tokens .sqlite clauses <:+: Token.ofText text := by
      rw [htokens]
      exact (Token.infix_intercalate hpiece).trans
        ((List.prefix_append _ _).isInfix.trans (List.suffix_append _ _).isInfix)
    exact ColumnDef.countsInteger_of_preceded hclauses hpart hpreceded
  · intro hinteger
    exact property_of_createText h autoIncrement_mem_keyWords Token.preceded_of_not_mem
      Token.Preceded.append
      fun column hcolumn clauses hclauses =>
        ColumnDef.preceded_integerKey hclauses (hinteger column hcolumn)

/-- The text obeys the rules of the engines.  There is at most one key; and in the dialect
that counts by a word only a key that is an integer is counted. -/
structure ObeysKeyRules (dialect : Dialect) (text : String) : Prop where
  occurrences_le_one :
    Token.occurrences ColumnClause.primaryKey.tokens (Token.ofText text) ≤ 1
  preceded : dialect = .sqlite →
    Token.Preceded ColumnDef.integerKey (.word "AUTOINCREMENT") (Token.ofText text)

theorem obeysKeyRules_iff (h : schema.createText dialect mode = .ok text) :
    ObeysKeyRules dialect text ↔
      (schema.columns.countP fun column => column.constraints.primaryKey) ≤ 1 ∧
        (dialect = .sqlite → ∀ column ∈ schema.columns, column.CountsInteger) := by
  rw [← occurrences_primaryKey h]
  constructor
  · intro hobeys
    refine ⟨hobeys.occurrences_le_one, ?_⟩
    rintro rfl
    exact (preceded_integerKey_iff h).mp (hobeys.preceded rfl)
  · rintro ⟨hone, hinteger⟩
    refine ⟨hone, ?_⟩
    rintro rfl
    exact (preceded_integerKey_iff h).mpr (hinteger rfl)

theorem preceded_primaryKey (h : schema.createText dialect mode = .ok text) :
    Token.Preceded ColumnClause.primaryKey.tokens (.word "AUTOINCREMENT")
      (Token.ofText text) :=
  property_of_createText h autoIncrement_mem_keyWords Token.preceded_of_not_mem
    Token.Preceded.append fun _ _ _ hclauses =>
      ColumnDef.preceded_autoIncrement hclauses fun _ => List.suffix_append _ _

/-- The definition of a table has the keys that its schema has, whatever the engines say to
that.  There is one just if there are columns and each foreign key has a key to refer to.
The text declares a key for each column that is marked as one; in one of the dialects it
says that the key is counted for each that the database fills in, right after the key.  So
the rules of the engines are obeyed just if at most one column is a key and, where keys are
counted, the counted ones are integers.  If they are not, the text is sent like any other,
and the refusal of the engine is a failure of the schema. -/
theorem createText_keys (σ : Type) [Adaptor σ] :
    (∀ (schema : Schema) (dialect : Dialect) (mode : CreateMode),
      ((∃ text, schema.createText dialect mode = .ok text) ↔
        schema.columns ≠ [] ∧ ∀ column ∈ schema.columns, ColumnDef.HasKeys column) ∧
      ∀ text, schema.createText dialect mode = .ok text →
        Token.occurrences [.word "PRIMARY", .word "KEY"] (Token.ofText text) =
          (schema.columns.countP fun column => column.constraints.primaryKey) ∧
        (Token.ofText text).count (.word "AUTOINCREMENT") =
          (schema.columns.countP fun column =>
            column.constraints.primaryKey && column.constraints.autoIncrement &&
              dialect == .sqlite) ∧
        Token.Preceded [.word "PRIMARY", .word "KEY"] (.word "AUTOINCREMENT")
          (Token.ofText text) ∧
        (ObeysKeyRules dialect text ↔
          (schema.columns.countP fun column => column.constraints.primaryKey) ≤ 1 ∧
            (dialect = .sqlite → ∀ column ∈ schema.columns,
              column.constraints.primaryKey = true → column.constraints.autoIncrement = true →
                column.type.word .sqlite column.constraints = "INTEGER"))) ∧
    ∀ (model : Model) (mode : CreateMode) (before : Handed σ) (text : String),
      model.schema.createText (Adaptor.dialect before) mode = .ok text →
        (model.createTable mode before).2.statements = before.statements ++ [.raw text] ∧
        ∀ error, (Adaptor.executeBatch text before).1 = .error error → error.kind = .query →
          (model.createTable mode before).1 = .error ⟨.schema, error.message⟩ := by
  refine ⟨?_, fun model mode before text => Model.createTable_of_createText⟩
  intro schema dialect mode
  refine ⟨exists_createText_iff, ?_⟩
  intro text h
  refine ⟨occurrences_primaryKey h, ?_, preceded_primaryKey h, ?_⟩
  · exact count_of_createText h autoIncrement_mem_keyWords ColumnDef.count_autoIncrement
  · exact obeysKeyRules_iff h

/-- A connection whose engine refuses the next definition. -/
def refusing : Handed Scripted :=
  ⟨{ dialect := .sqlite, batches := [.error ⟨.query, "more than one primary key"⟩] }, []⟩

theorem createText_keys_gen :
    ∃ text, Sample.gen.schema.createText .sqlite .abortIfExists = .ok text ∧
      Token.occurrences [.word "PRIMARY", .word "KEY"] (Token.ofText text) = 2 ∧
      (Sample.gen.createTable .abortIfExists refusing).2.statements = [.raw text] ∧
      (Sample.gen.createTable .abortIfExists refusing).1 =
        .error ⟨.schema, "more than one primary key"⟩ := by
  obtain ⟨hschema, hsent⟩ := createText_keys Scripted
  have htext : ∃ text, Sample.gen.schema.createText .sqlite .abortIfExists = .ok text :=
    ⟨_, rfl⟩
  obtain ⟨text, htext⟩ := htext
  obtain ⟨-, hkeys⟩ := hschema Sample.gen.schema .sqlite .abortIfExists
  obtain ⟨hstatements, hrefused⟩ := hsent Sample.gen .abortIfExists refusing text htext
  refine ⟨text, htext, (hkeys text htext).1, hstatements, ?_⟩
  exact hrefused ⟨.query, "more than one primary key"⟩ rfl rfl

/-- Codes that the database is to count, which are texts. -/
def codes : Schema :=
  ⟨"codes", [⟨"code", .text, { primaryKey := true, autoIncrement := true }⟩]⟩

/-- There are definitions that no engine takes: with two keys, and with a counted text. -/
theorem createText_against_rules :
    (∃ text, Sample.gen.schema.createText .sqlite .abortIfExists = .ok text ∧
      ¬ ObeysKeyRules .sqlite text) ∧
    (∃ text, Sample.gen.schema.createText .postgresql .abortIfExists = .ok text ∧
      ¬ ObeysKeyRules .postgresql text) ∧
    codes.createText .sqlite .abortIfExists =
      .ok "CREATE TABLE \"codes\" (\"code\" TEXT PRIMARY KEY AUTOINCREMENT)" ∧
    ¬ ObeysKeyRules .sqlite
      "CREATE TABLE \"codes\" (\"code\" TEXT PRIMARY KEY AUTOINCREMENT)" := by
  have hcodes : codes.createText .sqlite .abortIfExists =
      .ok "CREATE TABLE \"codes\" (\"code\" TEXT PRIMARY KEY AUTOINCREMENT)" :=
    rfl
  have hgen : ∀ dialect, ∃ text,
      Sample.gen.schema.createText dialect .abortIfExists = .ok text ∧
        ¬ ObeysKeyRules dialect text := by
    intro dialect
    have htext : ∃ text, Sample.gen.schema.createText dialect .abortIfExists = .ok text := by
      cases dialect with
      | sqlite => exact ⟨_, rfl⟩
      | postgresql => exact ⟨_, rfl⟩
    obtain ⟨text, htext⟩ := htext
    refine ⟨text, htext, ?_⟩
    rw [obeysKeyRules_iff htext]
    exact fun h => absurd h.1 (by decide)
  refine ⟨hgen .sqlite, hgen .postgresql, hcodes, ?_⟩
  rw [obeysKeyRules_iff hcodes]
  rintro ⟨-, hinteger⟩
  exact absurd (hinteger rfl _ List.mem_cons_self rfl rfl) (by decide)

end Schema

end TypedQuery
