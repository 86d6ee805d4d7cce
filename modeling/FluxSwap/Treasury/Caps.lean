-- SUMMARY: The daily spending caps of the treasury: what is spent of a token on a day stays within the largest cap of that day.
import FluxSwap.Treasury.Timelock

/-!
# Daily caps

Five calls spend. They share one counter per token, which is rolled over lazily, on its
first use of a day. While a cap is set every one of them goes through the counter, so on
the day of its last use the counter is what was spent on that day.
-/

namespace Treasury

open Exec

variable {α : Type} {keccak256 : Bytes → Bytes32} {pay : Payments α} {s s' : Treasury α}
  {log : System.History (Treasury α) (Op α)} {token : Address} {d : Nat}

/-! ## What a history spends -/

/-- What a call spends of a token; `address(0)` stands for ETH. -/
def spending (token : Address) : Op α → Nat
  | .allocate _ spent _ amount => if spent = token then amount else 0
  | .allocateETH _ _ amount => if Address.zero = token then amount else 0
  | .consumeApprovedSpenderCap _ spent amount => if spent = token then amount else 0
  | .pullApprovedToken _ spent amount => if spent = token then amount else 0
  | .burnApprovedToken _ spent amount => if spent = token then amount else 0
  | _ => 0

/-- What was spent of a token on a day. -/
def spentOn (token : Address) (d : Nat) : System.History (Treasury α) (Op α) → Nat
  | [] => 0
  | (s, op) :: log => spentOn token d log + if s.day = d then spending token op else 0

/-- The largest cap of a token in force on a day. -/
def largestCapOn (token : Address) (d : Nat) : System.History (Treasury α) (Op α) → Nat
  | [] => 0
  | (s, _) :: log => max (largestCapOn token d log) (if s.day = d then s.dailySpendCap token else 0)

/-- The cap of a token was set throughout a day. -/
def CappedOn (token : Address) (d : Nat) (log : System.History (Treasury α) (Op α)) : Prop :=
  ∀ r ∈ log, r.1.day = d → r.1.dailySpendCap token ≠ 0

theorem CappedOn.tail {op : Op α} (h : CappedOn token d ((s, op) :: log)) : CappedOn token d log :=
  fun r hr => h r (List.mem_cons_of_mem _ hr)

/-- Nothing was spent on a day that has not come. -/
theorem spentOn_eq_zero (h : ∀ r ∈ log, r.1.day < d) : spentOn token d log = 0 := by
  induction log with
  | nil => rfl
  | cons r log ih =>
    have hday := h r List.mem_cons_self
    rw [spentOn, ih fun r' hr' => h r' (List.mem_cons_of_mem _ hr'), if_neg (Nat.ne_of_lt hday)]

/-! ## What a call does to the counter -/

/-- The counter of a token after a call that spends `amount` of it: nothing is spent, no cap
    is set, or the amount is counted and fits. -/
def Counts (s s' : Treasury α) (token : Address) (amount : Nat) : Prop :=
  (s'.lastSpendDay token = s.lastSpendDay token ∧ s'.spentToday token = s.spentToday token ∧
    (amount = 0 ∨ s.dailySpendCap token = 0)) ∨
  (s'.lastSpendDay token = s.day ∧ s'.spentToday token = s.countedToday token + amount ∧
    s.countedToday token + amount ≤ s.dailySpendCap token)

theorem Counts.unchanged (hlast : s'.lastSpendDay = s.lastSpendDay)
    (hspent : s'.spentToday = s.spentToday) (token : Address) : Counts s s' token 0 :=
  .inl ⟨congrFun hlast token, congrFun hspent token, .inl rfl⟩

/-- Counting one token leaves the counters of the others. -/
theorem Counts.counted {spent : Address} {amount : Nat}
    (hlast : s'.lastSpendDay = (s.counted spent amount).lastSpendDay)
    (hspent : s'.spentToday = (s.counted spent amount).spentToday)
    (hle : s.countedToday spent + amount ≤ s.dailySpendCap spent) (token : Address) :
    Counts s s' token (if spent = token then amount else 0) := by
  unfold Counts
  rw [hlast, hspent]
  by_cases hother : spent = token
  · subst hother
    rw [if_pos rfl]
    exact .inr ⟨Function.update_self _ _ _, Function.update_self _ _ _, hle⟩
  · rw [if_neg hother]
    exact .inl ⟨Function.update_of_ne (Ne.symm hother) _ _,
      Function.update_of_ne (Ne.symm hother) _ _, .inl rfl⟩

theorem consumeApprovedSpender_counts {sender spent : Address} {amount : Nat}
    (h : s.consumeApprovedSpender sender spent amount = .ok s') (token : Address) :
    Counts s s' token (if spent = token then amount else 0) := by
  obtain ⟨-, -, -, s₁, rfl, ⟨hnone, rfl⟩ | ⟨hle, rfl⟩⟩ := consumeApprovedSpender_eq_ok h
  · by_cases hother : spent = token
    · subst hother
      exact .inl ⟨rfl, rfl, .inr hnone⟩
    · rw [if_neg hother]
      exact .unchanged rfl rfl token
  · exact .counted rfl rfl hle token

theorem Performs.counters {operationId : Bytes32} {effect : Effect}
    (h : (s.setReadyAt operationId 0).Performs pay effect s') :
    s'.lastSpendDay = s.lastSpendDay ∧ s'.spentToday = s.spentToday := by
  cases effect with
  | setOperator newOperator => obtain rfl := h; exact ⟨rfl, rfl⟩
  | setGuardian newGuardian => obtain rfl := h; exact ⟨rfl, rfl⟩
  | setMinDelay newMinDelay => obtain ⟨-, rfl⟩ := h; exact ⟨rfl, rfl⟩
  | setAllowedToken token allowed => obtain ⟨-, rfl⟩ := h; exact ⟨rfl, rfl⟩
  | setAllowedRecipient recipient allowed => obtain rfl := h; exact ⟨rfl, rfl⟩
  | setDailySpendCap token newCap => obtain rfl := h; exact ⟨rfl, rfl⟩
  | approveSpender token spender amount => obtain rfl := h; exact ⟨rfl, rfl⟩
  | revokeSpender token spender => obtain rfl := h; exact ⟨rfl, rfl⟩
  | emergencyWithdraw token dst amount => obtain ⟨-, a, -, rfl⟩ := h; exact ⟨rfl, rfl⟩
  | emergencyWithdrawETH dst amount => obtain ⟨a, -, rfl⟩ := h; exact ⟨rfl, rfl⟩

theorem exec_counts {op : Op α} (h : s.exec keccak256 pay op = .ok s') (token : Address) :
    Counts s s' token (spending token op) := by
  cases op with
  | pause sender => obtain rfl := pause_eq_ok h; exact .unchanged rfl rfl token
  | unpause sender => obtain rfl := unpause_eq_ok h; exact .unchanged rfl rfl token
  | scheduleOperation sender operationId delay =>
    obtain ⟨-, -, rfl⟩ := scheduleOperation_eq_ok h
    exact .unchanged rfl rfl token
  | cancelOperation sender operationId =>
    obtain rfl := cancelOperation_eq_ok h
    exact .unchanged rfl rfl token
  | execute effect operationId =>
    -- a scheduled effect changes caps, never what was spent
    obtain ⟨hlast, hspent⟩ := (execute_eq_ok h).2.2.2.counters
    exact .unchanged hlast hspent token
  | allocate sender spent dst amount =>
    obtain ⟨-, -, -, -, hle, a, -, rfl⟩ := allocate_eq_ok h
    exact .counted rfl rfl hle token
  | allocateETH sender dst amount =>
    obtain ⟨-, -, -, hle, a, -, rfl⟩ := allocateETH_eq_ok h
    exact .counted rfl rfl hle token
  | consumeApprovedSpenderCap sender spent amount =>
    exact consumeApprovedSpender_counts (consumeApprovedSpenderCap_eq_ok h).2 token
  | pullApprovedToken sender spent amount =>
    obtain ⟨-, s₁, a, hconsume, -, rfl⟩ := pullApprovedToken_eq_ok h
    exact consumeApprovedSpender_counts hconsume token
  | burnApprovedToken sender spent amount =>
    obtain ⟨-, s₁, a, hconsume, -, rfl⟩ := burnApprovedToken_eq_ok h
    exact consumeApprovedSpender_counts hconsume token
  | wait seconds =>
    obtain rfl := pure_eq_ok.mp h
    exact Counts.unchanged (s := s) rfl rfl token
  | others assets =>
    obtain rfl := pure_eq_ok.mp h
    exact .unchanged rfl rfl token

/-! ## The invariant -/

/-- On the day of its last use the counter is what was spent, on later days nothing was. -/
structure CountedOn (s : Treasury α) (log : System.History (Treasury α) (Op α))
    (token : Address) (d : Nat) : Prop where
  within : spentOn token d log ≤ largestCapOn token d log
  today : s.lastSpendDay token = d → spentOn token d log = s.spentToday token
  later : s.lastSpendDay token < d → spentOn token d log = 0

structure Counted (s : Treasury α) (log : System.History (Treasury α) (Op α)) : Prop where
  past : ∀ r ∈ log, r.1.day ≤ s.day
  last : ∀ token, s.lastSpendDay token ≤ s.day
  counts : ∀ token d, CappedOn token d log → CountedOn s log token d

theorem Deployed.counted (h : s.Deployed) : Counted s [] where
  past := nofun
  last token := by
    rw [h.lastSpendDay]
    exact Nat.zero_le _
  counts token d _ := by
    refine ⟨le_rfl, ?_, fun _ => rfl⟩
    intro _
    rw [h.spentToday]
    rfl

theorem day_le_of_timestamp_le (h : s.timestamp ≤ s'.timestamp) : s.day ≤ s'.day :=
  Nat.div_le_div_right h

/-- The count of the day of the call. -/
theorem CountedOn.current {op : Op α} (hc : CountedOn s log token s.day)
    (hlast : s.lastSpendDay token ≤ s.day) (hset : s.dailySpendCap token ≠ 0)
    (h : Counts s s' token (spending token op)) : CountedOn s' ((s, op) :: log) token s.day := by
  have hwithin := hc.within
  have hcounter : spentOn token s.day log = s.countedToday token := by
    unfold countedToday
    split
    · rename_i hsame
      exact hc.today hsame
    · rename_i hother
      exact hc.later (Nat.lt_of_le_of_ne hlast hother)
  have hspent : spentOn token s.day ((s, op) :: log) =
      spentOn token s.day log + spending token op := by
    rw [spentOn, if_pos rfl]
  have hcap : largestCapOn token s.day ((s, op) :: log) =
      max (largestCapOn token s.day log) (s.dailySpendCap token) := by
    rw [largestCapOn, if_pos rfl]
  obtain ⟨hkept, hsame, hnone | hnone⟩ | ⟨hday, hnew, hle⟩ := h
  · refine ⟨?_, ?_, ?_⟩
    · rw [hspent, hcap, hnone]
      omega
    · rw [hspent, hkept, hsame, hnone]
      exact hc.today
    · rw [hspent, hkept, hnone]
      exact hc.later
  · exact absurd hnone hset
  · refine ⟨?_, ?_, ?_⟩
    · rw [hspent, hcap, hcounter]
      omega
    · intro _
      rw [hspent, hnew, hcounter]
    · rw [hday]
      exact fun hlt => absurd hlt (lt_irrefl _)

/-- The count of another day. -/
theorem CountedOn.other {op : Op α} {amount : Nat} (hc : CountedOn s log token d)
    (hpast : ∀ r ∈ log, r.1.day ≤ s.day) (hd : s.day ≠ d) (h : Counts s s' token amount) :
    CountedOn s' ((s, op) :: log) token d := by
  have hspent : spentOn token d ((s, op) :: log) = spentOn token d log := by
    rw [spentOn, if_neg hd, Nat.add_zero]
  have hcap : largestCapOn token d ((s, op) :: log) = largestCapOn token d log := by
    rw [largestCapOn, if_neg hd, Nat.max_zero]
  refine ⟨?_, ?_, ?_⟩
  · rw [hspent, hcap]
    exact hc.within
  · obtain ⟨hkept, hsame, -⟩ | ⟨hday, -, -⟩ := h
    · rw [hspent, hkept, hsame]
      exact hc.today
    · rw [hday]
      exact fun hsame => absurd hsame hd
  · obtain ⟨hkept, -, -⟩ | ⟨hday, -, -⟩ := h
    · rw [hspent, hkept]
      exact hc.later
    · rw [hspent, hday]
      intro hlt
      exact spentOn_eq_zero fun r hr => (hpast r hr).trans_lt hlt

theorem Counted.step {op : Op α} (hI : Counted s log) (h : s.exec keccak256 pay op = .ok s') :
    Counted s' ((s, op) :: log) := by
  have hday := day_le_of_timestamp_le (exec_clocked h).timestamp
  refine ⟨?_, ?_, ?_⟩
  · intro r hr
    cases List.mem_cons.mp hr with
    | inl hnow => rw [hnow]; exact hday
    | inr hold => exact (hI.past r hold).trans hday
  · intro token
    obtain ⟨hkept, -, -⟩ | ⟨hnow, -, -⟩ := exec_counts h token
    · rw [hkept]
      exact (hI.last token).trans hday
    · rw [hnow]
      exact hday
  · intro token d hcapped
    have hc := hI.counts token d hcapped.tail
    by_cases hd : s.day = d
    · subst hd
      exact hc.current (hI.last token) (hcapped _ List.mem_cons_self rfl) (exec_counts h token)
    · exact hc.other hI.past hd (exec_counts h token)

/-- On a day on which the cap of a token is set throughout, what is spent of the token is at
    most the largest cap that was in force on that day. -/
theorem spentOn_le_largestCapOn (h : (runs keccak256 pay).Reachable (s, log)) (token : Address)
    (d : Nat) (hcapped : CappedOn token d log) :
    spentOn token d log ≤ largestCapOn token d log := by
  have hI : Counted s log := by
    refine System.ReachableWith.invariant_logged (I := Counted) ?_ ?_ h
    · exact fun s hdeployed => hdeployed.counted
    · exact fun s log op s' hI _ hcall => hI.step hcall
  exact (hI.counts token d hcapped).within

namespace Example

/-- ETH may be paid to one recipient, at most 100 a day. A day later the cap is used up. -/
def spendTheCap : List (Op Unit) :=
  let cap := (Effect.setDailySpendCap Address.zero 100).hash digest
  let recipient := (Effect.setAllowedRecipient 7 true).hash digest
  [.scheduleOperation council cap 172800, .scheduleOperation council recipient 172800,
    .wait 172800, .execute (.setDailySpendCap Address.zero 100) cap,
    .execute (.setAllowedRecipient 7 true) recipient, .wait 86400,
    .allocateETH 2 7 60, .allocateETH council 7 40]

end Example

open Example in
theorem spentOn_le_largestCapOn_spendTheCap :
    ∃ s log, (runs digest succeeding).Reachable (s, log) ∧
      CappedOn Address.zero 19678 log ∧ spentOn Address.zero 19678 log = 100 ∧
      spentOn Address.zero 19678 log ≤ largestCapOn Address.zero 19678 log := by
  have hrun : (System.runWith (System.logged (exec digest succeeding)) (fun _ _ => True)
      (start, []) spendTheCap).map (fun r => (spentOn Address.zero 19678 r.2,
        r.2.all fun x => x.1.day ≠ 19678 ∨ x.1.dailySpendCap Address.zero ≠ 0)) =
        some (100, true) := by
    decide +kernel
  obtain ⟨⟨s, log⟩, hs, hsummary⟩ := Option.map_eq_some_iff.mp hrun
  obtain ⟨hspent, hset⟩ := Prod.mk.inj hsummary
  have hreach : (runs digest succeeding).Reachable (s, log) :=
    System.reachableWith_of_runWith (.init ⟨start_deployed, rfl⟩) hs
  have hcapped : CappedOn Address.zero 19678 log := by
    intro r hr hday
    have hany := List.all_eq_true.mp hset r hr
    simp only [decide_eq_true_eq] at hany
    exact hany.resolve_left fun hother => hother hday
  exact ⟨s, log, hreach, hcapped, hspent, spentOn_le_largestCapOn hreach _ _ hcapped⟩

end Treasury
