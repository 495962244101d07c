import TableFeed.Sql.Parser.Names

/-!
# Transactions

Statements that begin and end a transaction, and those that say how it is kept apart from the
others. Each is read behind its first keyword.
-/

namespace TableFeed.Sql.TransactionReader

open Read

/-- How far a transaction is kept apart from the others. -/
def isolation : Read Unit := do
  unless ← anyOf [["READ", "UNCOMMITTED"], ["READ", "COMMITTED"], ["REPEATABLE", "READ"],
      ["SERIALIZABLE"], ["SNAPSHOT"]] do
    expected "isolation level"

/-- The modes of a transaction. A comma asks for another one. -/
def modes : Read Unit := do
  ignore (iterate false fun required => do
    if ← keywords ["ISOLATION", "LEVEL"] then isolation
    else unless ← anyOf [["READ", "ONLY"], ["READ", "WRITE"]] do
      if required then expected "transaction mode"
      return none
    return some (← symbol ","))

/-- Whether a new transaction follows. -/
def chain : Read Unit := do
  ignore (oneOf ["TRANSACTION", "WORK"])
  if ← keyword "AND" then
    ignore (keyword "NO")
    expectKeyword "CHAIN"

/-- `START` -/
def start : Read Unit := do
  expectKeyword "TRANSACTION"
  modes

/-- `BEGIN` -/
def begin : Read Unit := do
  if ← allows Rules.transactionModifiers then
    ignore (oneOf ["DEFERRED", "IMMEDIATE", "EXCLUSIVE", "TRY", "CATCH"])
  ignore (oneOf ["TRANSACTION", "WORK"])
  modes

/-- `END` -/
def finish : Read Unit := do
  if ← allows Rules.endModifiers then ignore (oneOf ["TRY", "CATCH"])
  chain

/-- `ROLLBACK` -/
def rollback : Read Unit := do
  chain
  if ← keyword "TO" then
    ignore (keyword "SAVEPOINT")
    ignore identifier

/-- `RELEASE` -/
def release : Read Unit := do
  ignore (keyword "SAVEPOINT")
  ignore identifier

end TableFeed.Sql.TransactionReader
