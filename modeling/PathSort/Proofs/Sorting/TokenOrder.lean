import PathSort.Proofs.Sorting.ClosedForm

/-!
# The order of tokens

Whether a run without handlers succeeds depends on each token by itself, so the order of tokens has
no part in it. The tables that a successful run joins and the ORDER BY terms that it adds come from
the tokens one by one, too, and only their order changes. Which join brings a table is another
matter: the first token that needs the table decides. But when all tokens that need a table ask for
the same join to it, and the query has no other one already, the joins only change their order as
well, and every join that a token asks for is there.
-/

namespace PathSort

set_option autoImplicit false

namespace SortOptions

def planned? (options : SortOptions) (raw : String) : Option (Directive × JoinPlan) :=
  (options.reading raw).planned?

def askedJoins (options : SortOptions) (raws : List String) : List JoinClause :=
  (raws.filterMap options.planned?).flatMap (·.2.joins)

/-- The joins that the tokens ask for agree, with each other and with those of the query. -/
structure JoinsAgree (options : SortOptions) (raws : List String) (query : SelectQuery) :
    Prop where
  one_each : ConsistentJoins (options.askedJoins raws)
  joined_so : ∀ clause ∈ options.askedJoins raws, clause.table ∈ query.targets →
    clause ∈ query.joins

theorem planned_eq_some_iff {options : SortOptions} {raw : String} (entry : Directive × JoinPlan) :
    options.planned? raw = some entry ↔ options.Planned raw entry := by
  obtain ⟨directive, plan⟩ := entry
  rw [← reading_planned_iff, planned?]
  cases options.reading raw with
  | planned other spelled => simp [Reading.planned?]
  | _ => simp [Reading.planned?]

variable {Q : Type} [QueryBuilder Q] {options : SortOptions}

theorem sort_all_succeeds_iff (raws : List String) (query : Q) :
    (∃ directives, (options.sortAll Model.plain raws query).result = .ok directives) ↔
      ∀ raw ∈ raws, options.Passes raw := by
  induction raws generalizing query with
  | nil =>
      have nothing : (options.sortAll Model.plain [] query).result = .ok [] := rfl
      simp [nothing]
  | cons raw rest ih =>
      rw [List.forall_mem_cons, passes_iff]
      cases reading : options.reading raw with
      | malformed error =>
          rw [sort_all_of_failed_head rest (sort_of_malformed (reading_malformed_iff.mp reading))]
          simp [Reading.refusal?]
      | refused directive error =>
          rw [sort_all_of_failed_head rest (sort_of_refused rfl reading)]
          simp [Reading.refusal?]
      | skipped directive =>
          rw [sort_all_of_sorted_head rest (sort_of_skipped rfl reading query), ← ih query]
          simp [Run.map_eq_ok_iff, Reading.refusal?]
      | planned directive plan =>
          obtain ⟨reached, events, -, sorted⟩ :=
            sort_of_planned (plain_unhandled directive) reading query
          rw [sort_all_of_sorted_head rest sorted, ← ih reached]
          simp [Run.map_eq_ok_iff, Reading.refusal?]

/-- A run that comes to its end applies the plans of all its tokens. -/
theorem applied_of_passing {raws : List String} (passing : ∀ raw ∈ raws, options.Passes raw) :
    options.applied raws = raws.filterMap options.planned? := by
  induction raws with
  | nil => rfl
  | cons raw rest ih =>
      obtain ⟨passes, later⟩ := List.forall_mem_cons.mp passing
      rw [passes_iff] at passes
      cases reading : options.reading raw with
      | malformed error => simp [reading, Reading.refusal?] at passes
      | refused directive error => simp [reading, Reading.refusal?] at passes
      | skipped directive =>
          simp [applied, planned?, reading, Reading.planned?, ih later]
      | planned directive plan =>
          simp [applied, planned?, reading, Reading.planned?, ih later]

theorem applied_joins_of_passing {raws : List String}
    (passing : ∀ raw ∈ raws, options.Passes raw) :
    ((options.applied raws).map Directive.step).flatMap (·.1.joins) = options.askedJoins raws := by
  rw [applied_of_passing passing, List.flatMap_map]
  rfl

section Reordered

variable {raws others : List String}

theorem passing_perm (shuffled : raws.Perm others) :
    (∀ raw ∈ raws, options.Passes raw) ↔ ∀ raw ∈ others, options.Passes raw := by
  simp only [shuffled.mem_iff]

theorem applied_perm (shuffled : raws.Perm others)
    (passing : ∀ raw ∈ raws, options.Passes raw) :
    (options.applied raws).Perm (options.applied others) := by
  rw [applied_of_passing passing, applied_of_passing ((passing_perm shuffled).mp passing)]
  exact shuffled.filterMap options.planned?

theorem mem_asked_joins_perm (shuffled : raws.Perm others) (clause : JoinClause) :
    clause ∈ options.askedJoins raws ↔ clause ∈ options.askedJoins others :=
  ((shuffled.filterMap options.planned?).flatMap_right _).mem_iff

theorem joins_agree_perm {query : SelectQuery} (shuffled : raws.Perm others)
    (agree : options.JoinsAgree raws query) : options.JoinsAgree others query where
  one_each := by
    intro clause asked other asked_other
    rw [← mem_asked_joins_perm shuffled] at asked asked_other
    exact agree.one_each clause asked other asked_other
  joined_so := by
    intro clause asked
    rw [← mem_asked_joins_perm shuffled] at asked
    exact agree.joined_so clause asked

end Reordered

section Finished

variable {query : SelectQuery} {raws : List String}

theorem joins_of_passing (indexed : query.Indexed) (passing : ∀ raw ∈ raws, options.Passes raw) :
    (options.sortAll Model.plain raws query).state.joins =
      query.joins ++ keptJoins query.targets (options.askedJoins raws) := by
  rw [(sort_all_sorted indexed options raws).joins_eq, applied_joins_of_passing passing]

theorem mem_targets_of_passing (indexed : query.Indexed)
    (passing : ∀ raw ∈ raws, options.Passes raw) (name : String) :
    name ∈ (options.sortAll Model.plain raws query).state.targets ↔
      name ∈ query.targets ∨ ∃ clause ∈ options.askedJoins raws, clause.table = name := by
  rw [SelectQuery.targets, joins_of_passing indexed passing, List.map_append, mem_kept_tables,
    List.mem_append]
  exact or_congr_right List.mem_map

theorem order_of_run (indexed : query.Indexed) (options : SortOptions) (raws : List String) :
    (options.sortAll Model.plain raws query).state.orderBy = query.orderBy ++
      (options.applied raws).map fun entry => ⟨entry.2.orderColumn, entry.1.order⟩ := by
  rw [(sort_all_sorted indexed options raws).order_eq, List.map_map]
  rfl

/-- Where the joins agree, each one is there: made by the run, or made beforehand. -/
theorem asked_join_present (indexed : query.Indexed)
    (passing : ∀ raw ∈ raws, options.Passes raw) (agree : options.JoinsAgree raws query)
    {clause : JoinClause} (asked : clause ∈ options.askedJoins raws) :
    clause ∈ (options.sortAll Model.plain raws query).state.joins := by
  rw [joins_of_passing indexed passing, List.mem_append]
  by_cases present : clause.table ∈ query.targets
  · exact Or.inl (agree.joined_so clause asked present)
  · exact Or.inr ((mem_kept_joins_of_consistent agree.one_each clause).mpr ⟨asked, present⟩)

theorem mem_asked_joins {raw : String} (listed : raw ∈ raws) {entry : Directive × JoinPlan}
    (planned : options.Planned raw entry) {clause : JoinClause} (asked : clause ∈ entry.2.joins) :
    clause ∈ options.askedJoins raws :=
  List.mem_flatMap.mpr
    ⟨entry, List.mem_filterMap.mpr ⟨raw, listed, (planned_eq_some_iff entry).mpr planned⟩, asked⟩

end Finished

/-- Tokens in another order succeed or fail as they do in the first, on every query that calls made.
When they succeed, the same tables are joined and the same ORDER BY terms are added, in another
order. If the joins that the tokens ask for agree, the same joins are added, in another order, and
none that a token asks for is missing. -/
theorem token_order_only_reorders (options : SortOptions) (table : String) (calls : List QueryCall)
    (raws others : List String) (shuffled : raws.Perm others) :
    let start := QueryCall.replay (SelectQuery.ofTable table) calls
    let first := options.sortAll Model.plain raws start
    let second := options.sortAll Model.plain others start
    ((∃ directives, first.result = .ok directives) ↔
      ∃ directives, second.result = .ok directives) ∧
    ((∃ directives, first.result = .ok directives) →
      (∀ name, name ∈ first.state.targets ↔ name ∈ second.state.targets) ∧
      (∃ terms reordered, first.state.orderBy = start.orderBy ++ terms ∧
        second.state.orderBy = start.orderBy ++ reordered ∧ terms.Perm reordered) ∧
      (options.JoinsAgree raws start →
        (∃ joins reordered, first.state.joins = start.joins ++ joins ∧
          second.state.joins = start.joins ++ reordered ∧ joins.Perm reordered) ∧
        ∀ raw ∈ raws, ∀ entry, options.Planned raw entry → ∀ clause ∈ entry.2.joins,
          clause ∈ first.state.joins ∧ clause ∈ second.state.joins)) := by
  intro start first second
  have indexed : start.Indexed :=
    SelectQuery.replay_indexed (SelectQuery.of_table_indexed table) calls
  refine ⟨?_, ?_⟩
  · rw [sort_all_succeeds_iff, sort_all_succeeds_iff]
    exact passing_perm shuffled
  · intro succeeds
    have passing := (sort_all_succeeds_iff raws start).mp succeeds
    have passing_others := (passing_perm shuffled).mp passing
    refine ⟨?_, ?_, ?_⟩
    · intro name
      rw [mem_targets_of_passing indexed passing, mem_targets_of_passing indexed passing_others]
      simp only [mem_asked_joins_perm shuffled]
    · exact ⟨_, _, order_of_run indexed options raws, order_of_run indexed options others,
        (applied_perm shuffled passing).map _⟩
    · intro agree
      have agree_others := joins_agree_perm shuffled agree
      refine ⟨⟨_, _, joins_of_passing indexed passing, joins_of_passing indexed passing_others,
        kept_joins_perm agree.one_each (mem_asked_joins_perm shuffled) start.targets⟩, ?_⟩
      intro raw listed entry planned clause asked
      have wanted := mem_asked_joins listed planned asked
      exact ⟨asked_join_present indexed passing agree wanted,
        asked_join_present indexed passing_others agree_others
          ((mem_asked_joins_perm shuffled clause).mp wanted)⟩

/-- The pivot table is joined beforehand by the join that the first token asks for. -/
theorem token_order_only_reorders_joined :
    let options := SortOptions.standard
    let calls : List QueryCall := [.leftJoin ⟨"role_user", "role_user.user_id", "=", "users.id"⟩]
    let early := ["users.roles.role_id.name.pivot.role_user.user_id,desc", "id"]
    let late := ["users.teams.team_id.title.flip"]
    let first := options.sortAll Model.plain (early ++ late)
      (QueryCall.replay (SelectQuery.ofTable "users") calls)
    let second := options.sortAll Model.plain (late ++ early)
      (QueryCall.replay (SelectQuery.ofTable "users") calls)
    (∃ directives, first.result = .ok directives) ∧
    options.JoinsAgree (early ++ late) (QueryCall.replay (SelectQuery.ofTable "users") calls) ∧
    first.state.targets = ["role_user", "roles", "teams"] ∧
    second.state.targets = ["role_user", "teams", "roles"] ∧
    ∃ joins reordered,
      first.state.joins =
        (QueryCall.replay (SelectQuery.ofTable "users") calls).joins ++ joins ∧
      second.state.joins =
        (QueryCall.replay (SelectQuery.ofTable "users") calls).joins ++ reordered ∧
      joins.Perm reordered := by
  intro options calls early late
  have asked : options.askedJoins (early ++ late) =
      [ ⟨"role_user", "role_user.user_id", "=", "users.id"⟩,
        ⟨"roles", "role_user.role_id", "=", "roles.id"⟩,
        ⟨"teams", "users.team_id", "=", "teams.id"⟩ ] := by
    decide +kernel
  have agree : options.JoinsAgree (early ++ late)
      (QueryCall.replay (SelectQuery.ofTable "users") calls) := by
    refine ⟨?_, ?_⟩
    · rw [asked, ConsistentJoins]
      decide +kernel
    · rw [asked]
      decide +kernel
  have succeeds : ∃ directives, (options.sortAll Model.plain (early ++ late)
      (QueryCall.replay (SelectQuery.ofTable "users") calls)).result = .ok directives :=
    ⟨[ ⟨"users.roles.role_id.name.pivot.role_user.user_id", .desc, by decide⟩,
        ⟨"id", .asc, by decide⟩, ⟨"users.teams.team_id.title.flip", .asc, by decide⟩ ], by
      decide +kernel⟩
  obtain ⟨-, reordered⟩ := token_order_only_reorders options "users" calls (early ++ late)
    (late ++ early) List.perm_append_comm
  obtain ⟨-, -, same_joins⟩ := reordered succeeds
  refine ⟨succeeds, agree, ?_, ?_, (same_joins agree).1⟩
  · decide +kernel
  · decide +kernel

/-- Tokens that ask for different joins to one table: the first of them decides. -/
example :
    let needed := "posts.tags.post_id.name"
    let other := "posts.tags.tag_id.name.flip"
    let joins := fun raws => (SortOptions.standard.sortAll Model.plain raws
      (SelectQuery.ofTable "posts")).state.joins.map JoinClause.sql
    joins [needed, other] = ["LEFT JOIN tags ON tags.post_id = posts.id"] ∧
    joins [other, needed] = ["LEFT JOIN tags ON posts.tag_id = tags.id"] := by
  decide +kernel

end SortOptions

end PathSort
