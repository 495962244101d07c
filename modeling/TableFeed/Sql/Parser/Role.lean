import TableFeed.Sql.Parser.Column

/-!
# Roles, owners and users

Roles are made and changed in two ways: by options that say what the role may do, or by its
members and its owner. Users have options too, each a key with a value, a list of values or a
list of further options.
-/

namespace TableFeed.Sql.RoleReader

open Read

/-! ### Owners -/

/-- The new owner of something. What is wrong with its name is told inside a message about the
owner. -/
def owner : Read Unit := do
  if (← oneOf ["CURRENT_USER", "CURRENT_ROLE", "SESSION_USER"]).isSome then return
  match ← result identifier with
  | .ok _ => return
  | .error e =>
    throw (.message ("Expected: CURRENT_USER, CURRENT_ROLE, SESSION_USER or identifier after " ++
      "OWNER TO. " ++ e.render) none)

/-- The name of a user, with the host that the user comes from where the dialect has hosts. -/
def userName : Read Unit := do
  let name ← objectName
  if ← only ((← allows Rules.userHosts) && name.length == 1) (symbol "@") then ignore identifier

/-! ### What a role may do -/

/-- The options that say with one word whether a role may do something, in pairs. -/
def abilities : List (String × String) :=
  [("LOGIN", "NOLOGIN"), ("INHERIT", "NOINHERIT"), ("BYPASSRLS", "NOBYPASSRLS"),
    ("CREATEDB", "NOCREATEDB"), ("CREATEROLE", "NOCREATEROLE"), ("SUPERUSER", "NOSUPERUSER"),
    ("REPLICATION", "NOREPLICATION")]

/-- The words of those options. -/
def abilityWords : List String := abilities.flatMap fun (yes, no) => [yes, no]

/-- What a word decides, as it is named in a message. -/
def decided (word : String) : String :=
  match abilities.find? fun (yes, no) => word == yes || word == no with
  | some (yes, no) => yes ++ " or " ++ no
  | none => word

/-- A password, behind its keyword. -/
def password : Read Unit := do
  unless ← keyword "NULL" do ignore value

/-- An option of a role that is changed. -/
def changedOption : Read Unit := do
  match ← oneOf ("CONNECTION" :: "PASSWORD" :: "VALID" :: abilityWords) with
  | some "CONNECTION" =>
    expectKeyword "LIMIT"
    ignore numberValue
  | some "PASSWORD" => password
  | some "VALID" =>
    expectKeyword "UNTIL"
    ignore value
  | some _ => return
  | none => expected "option"

/-- An option of a new role: what it decides and how that is read. -/
def newOption (members : Bool) : Read (Option (String × Read Unit)) := do
  let names : Read Unit := ignore (commaSeparated identifier)
  let words := if members then ["AUTHORIZATION"] else
    ["PASSWORD", "CONNECTION", "VALID", "IN", "ROLE", "ADMIN", "USER"] ++ abilityWords
  match ← oneOf words with
  | none => return none
  | some "AUTHORIZATION" => return some ("AUTHORIZATION", ignore objectName)
  | some "PASSWORD" => return some ("PASSWORD", password)
  | some "CONNECTION" =>
    expectKeyword "LIMIT"
    return some ("CONNECTION LIMIT", ignore numberValue)
  | some "VALID" =>
    expectKeyword "UNTIL"
    return some ("VALID UNTIL", ignore value)
  | some "IN" =>
    match ← oneOf ["ROLE", "GROUP"] with
    | some k => return some ("IN " ++ k, names)
    | none => expected "ROLE or GROUP after IN"
  | some k =>
    return some (decided k, if ["ROLE", "ADMIN", "USER"].contains k then names else pure ())

/-- The options of a new role. Nothing is decided twice. -/
def newOptions : Read Unit := do
  let members ← allows Rules.roleMembers
  if !members && !(← allows Rules.roleOptions) then return
  ignore (iterate [] fun (done : List String) => do
    let start ← rest
    match ← newOption members with
    | none => return none
    | some (what, p) =>
      if done.contains what then failAt ("Found multiple " ++ what) start
      p
      return some (what :: done))

/-- New roles, behind `ROLE`. -/
def create : Read Unit := do
  ignore (keywords ["IF", "NOT", "EXISTS"])
  ignore (commaSeparated objectName)
  ignore (keyword "WITH")
  newOptions

/-! ### Changes of roles -/

/-- The value of a setting of a role, behind `SET`. -/
def setting (g : Grammar) : Read Unit := do
  ignore objectName
  if ← keywords ["FROM", "CURRENT"] then return
  unless ← either (symbol "=") (keyword "TO") do expected "'TO' or '=' or 'FROM CURRENT'"
  if ← keyword "DEFAULT" then return
  if (← orNothing g.anyExpr).isNone then expected "config value"

/-- A change of the options of a role. -/
def changeOptions (g : Grammar) : Read Unit := do
  ignore identifier
  if ← keywords ["IN", "DATABASE"] then ignore (orNothing objectName)
  if ← keyword "RENAME" then
    unless ← keyword "TO" do expected "TO after RENAME"
    ignore identifier
  else if ← keyword "SET" then setting g
  else if ← keyword "RESET" then
    unless ← keyword "ALL" do ignore objectName
  else
    ignore (keyword "WITH")
    if (← many (attempt changedOption)).isEmpty then expected "option"

/-- A change of the members of a role. -/
def changeMembers : Read Unit := do
  ignore identifier
  if ← anyOf [["ADD", "MEMBER"], ["DROP", "MEMBER"]] then ignore identifier
  else if ← keywords ["WITH", "NAME"] then
    unless ← symbol "=" do expected "= after WITH NAME "
    ignore identifier
  else expected "'ADD' or 'DROP' or 'WITH NAME'"

/-- A change of a role, behind `ROLE`. -/
def change (g : Grammar) : Read Unit := do
  if ← allows Rules.roleOptions then changeOptions g
  else if ← allows Rules.roleMembers then changeMembers
  else throw (.message
    "ALTER ROLE is only support for PostgreSqlDialect and MsSqlDialect" none)

/-! ### Users -/

/-- The value of an option, behind the sign; `inner` reads options in parentheses. -/
def optionValue (inner : Read Unit) : Read Unit := do
  match ← peek 0 with
  | some (.word w) => if ["TRUE", "FALSE"].contains w.keyword then ignore value else skip
  | some (.quoted .single _) | some (.number _ _) => ignore value
  | some (.symbol "(") =>
    if (← attempt (inParens (commaSeparated0 value ")"))).isNone then inner
  | _ => expected "expected option value"

/-- Options with keys and values up to one of some words, or up to the closing parenthesis; at
most so many lists of them are open. A semicolon ends them and is taken. -/
def keyValues (stops : List String) (parens : Bool) : Nat → Read Unit
  | 0 => throw .tooDeep
  | n + 1 => do
    if parens then expectSymbol "("
    ignore (iterate false fun finished => do
      if finished then return none
      match ← peek 0 with
      | none => return none
      | some (.word w) =>
        if w.keyword ≠ "" && stops.contains w.keyword then return none
        skip
        expectSymbol "="
        optionValue (keyValues [] true n)
        return some false
      | some t =>
        skip
        match t with
        | .symbol ")" => if parens then return some true else expected " another option or EOF"
        | .symbol ";" => return some true
        | .symbol "," => return some false
        | _ => expected "another option, EOF, SemiColon, Comma or ')'")

/-- Options with keys and values up to one of some words. -/
def options (stops : List String) : Read Unit := do keyValues stops false (← read).bound

/-- A new user, behind `USER`. -/
def createUser : Read Unit := do
  ignore (keywords ["IF", "NOT", "EXISTS"])
  ignore identifier
  options ["WITH", "TAG"]
  ignore (keyword "WITH")
  if ← keyword "TAG" then keyValues [] true (← read).bound

/-- A second factor that a user signs in with. -/
def factor : Read Unit := do
  if (← oneOf ["PASSKEY", "TOTP", "DUO"]).isNone then expected "PASSKEY, TOTP or DUO"

/-- Policies behind a word, with the name of the policy if `named`. -/
def userPolicy (word : String) (named : Bool) : Read Unit := do
  if ← anyOf (["AUTHENTICATION", "PASSWORD", "SESSION"].map fun k => [word, k, "POLICY"]) then
    if named then ignore identifier

/-- A change of a user, behind `USER`. -/
def changeUser : Read Unit := do
  ignore (keywords ["IF", "EXISTS"])
  ignore identifier
  if ← keywords ["RENAME", "TO"] then ignore identifier
  ignore (keywords ["RESET", "PASSWORD"])
  ignore (keywords ["ABORT", "ALL", "QUERIES"])
  if ← keywords ["ADD", "DELEGATED", "AUTHORIZATION", "OF", "ROLE"] then
    ignore identifier
    expectKeywords ["TO", "SECURITY", "INTEGRATION"]
    ignore identifier
  if ← keywords ["REMOVE", "DELEGATED"] then
    if ← keywords ["AUTHORIZATION", "OF", "ROLE"] then ignore identifier
    expectKeywords ["FROM", "SECURITY", "INTEGRATION"]
    ignore identifier
  ignore (keywords ["ENROLL", "MFA"])
  if ← keywords ["SET", "DEFAULT_MFA_METHOD"] then factor
  if ← keywords ["REMOVE", "MFA", "METHOD"] then factor
  if ← keywords ["MODIFY", "MFA", "METHOD"] then
    factor
    expectKeywords ["SET", "COMMENT"]
    ignore literalString
  if ← keywords ["ADD", "MFA", "METHOD", "OTP"] then
    if ← keyword "COUNT" then
      expectSymbol "="
      ignore value
  userPolicy "SET" true
  userPolicy "UNSET" false
  if ← keywords ["SET", "TAG"] then options []
  if ← keywords ["UNSET", "TAG"] then ignore (commaSeparated identifier)
  if ← keyword "SET" then options []
  if ← keyword "UNSET" then ignore (commaSeparated identifier)

end TableFeed.Sql.RoleReader
