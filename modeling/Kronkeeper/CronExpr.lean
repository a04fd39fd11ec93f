import Kronkeeper.Job

namespace Kronkeeper

/-!
# Cron expressions

`normalize_cron_expr` and `next_fire_after` of `src/recurring.rs`.  The cron
parser, the text forms of ids and instants, and the text of a violated
uniqueness constraint come from other crates and from PostgreSQL; they are
the parameters of `Externals`.
-/

/-- `cron::Schedule`, seen through `schedule.after(&t).next()`. -/
abbrev Schedule :=
  Time → Option Time

/-- What the modelled code calls outside the repository. -/
structure Externals where
  scheduleFromStr : String → Except String Schedule
  uuidText : Uuid → String
  toRfc3339 : Time → String
  uniqueViolation : String

namespace RecurringService

/-- `char::is_whitespace`, the Unicode `White_Space` property. -/
def isWhitespace (c : Char) : Bool :=
  let code := c.toNat
  (9 ≤ code && code ≤ 13) || code == 32 || code == 0x85 || code == 0xA0 ||
    code == 0x1680 || (0x2000 ≤ code && code ≤ 0x200A) || code == 0x2028 ||
    code == 0x2029 || code == 0x202F || code == 0x205F || code == 0x3000

/-- `split_whitespace().count()`; the flag says whether a word is open. -/
def wordCount : Bool → List Char → Nat
  | _, [] => 0
  | inWord, c :: rest =>
      if isWhitespace c then
        wordCount false rest
      else if inWord then
        wordCount true rest
      else
        wordCount true rest + 1

def normalizeCronExpr (expr : String) : String :=
  match wordCount false expr.toList with
  | 5 => "0 " ++ expr ++ " *"
  | 6 => expr ++ " *"
  | _ => expr

def nextFireAfter
    (externals : Externals)
    (cronExpr : String)
    (after : Time) : Except String Time := do
  let schedule ← externals.scheduleFromStr (normalizeCronExpr cronExpr)
  match schedule after with
  | some fire => pure fire
  | none => throw "no next fire time for cron expression"

theorem nextFireAfter_eq_ok_iff
    {externals : Externals}
    {cronExpr : String}
    {after fire : Time} :
    nextFireAfter externals cronExpr after = .ok fire ↔
      ∃ schedule,
        externals.scheduleFromStr (normalizeCronExpr cronExpr) =
            .ok schedule ∧
          schedule after = some fire := by
  unfold nextFireAfter
  cases parsed :
      externals.scheduleFromStr (normalizeCronExpr cronExpr) with
  | error message =>
      simp [bind, Except.bind]
  | ok schedule =>
      cases answer : schedule after <;>
        simp [bind, Except.bind, pure, Except.pure, throw, throwThe,
          MonadExceptOf.throw, answer]

/-- `format!("{}:{}", template_id, fire.to_rfc3339())`. -/
def instanceKey
    (externals : Externals)
    (templateId : Uuid)
    (fire : Time) : String :=
  externals.uuidText templateId ++ ":" ++ externals.toRfc3339 fire

end RecurringService

end Kronkeeper
