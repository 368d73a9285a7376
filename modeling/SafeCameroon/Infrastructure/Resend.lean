import SafeCameroon.Library.Markup

namespace SafeCameroon

open Text Markup

namespace ResendEmailChannel

/-- The characters that would break out of the markup, as entities. -/
def escapeHtml (value : String) : String :=
  replace (replace (replace (replace value '&' "&amp;") '<' "&lt;") '>' "&gt;") '"' "&quot;"

/-- The first line of the message, and what follows its line breaks. -/
def splitHeader (body : String) : String × String :=
  match splitOnce ['\n'] body.toList with
  | some (header, rest) => (String.ofList header, String.ofList (rest.dropWhile (· = '\n')))
  | none => (body, "")

/-- The label in brackets and the area behind it; a header of another shape is all area. -/
def parseHeader (header : String) : Option String × String :=
  match header.toList with
  | '[' :: rest =>
      match splitOnce [']', ' '] rest with
      | some (label, after) => (some (String.ofList label), String.ofList after)
      | none => (none, header)
  | _ => (none, header)

def severityColor (label : String) : String :=
  if label = "Low" then "#60a5fa"
  else if label = "Medium" then "#f59e0b"
  else if label = "High" then "#fb923c"
  else if label = "Critical" then "#f87171"
  else "#94a3b8"

def currentYear (seconds : Nat) : Nat := 1970 + seconds / 31557600

def severityPill (color label : String) : String :=
  "<span style=\"display:inline-block;background:" ++ color ++ "1a;color:" ++ color ++
    ";border:1px solid " ++ color ++
    "55;font-size:11px;font-weight:700;letter-spacing:0.04em;text-transform:uppercase;" ++
    "padding:4px 10px;border-radius:999px;font-family:-apple-system,BlinkMacSystemFont," ++
    "'Segoe UI',Roboto,sans-serif;\">" ++
    label ++ "</span>"

/-- The template, up to the first place where something is put in. -/
def beforeBrand : String :=
  "<!DOCTYPE html>\n" ++
    "<html>\n  " ++
    "<body style=\"margin:0;padding:0;background-color:#020617;" ++
    "font-family:-apple-system,BlinkMacSystemFont,'Segoe UI',Roboto,sans-serif;" ++
    "\">\n    " ++
    "<table role=\"presentation\" width=\"100%\" cellpadding=\"0\" " ++
    "cellspacing=\"0\" style=\"background-color:#020617;padding:32px 16px;\">\n      " ++
    "<tr>\n        " ++
    "<td align=\"center\">\n          " ++
    "<table role=\"presentation\" width=\"480\" cellpadding=\"0\" " ++
    "cellspacing=\"0\" style=\"max-width:480px;width:100%;" ++
    "background-color:#0f172a;border:1px solid rgba(255,255,255,0.08);" ++
    "border-radius:16px;overflow:hidden;\">\n            " ++
    "<tr>\n              " ++
    "<td style=\"padding:28px 32px 0 32px;\">\n                " ++
    "<table role=\"presentation\" cellpadding=\"0\" cellspacing=\"0\">\n                  " ++
    "<tr>\n                    " ++
    "<td style=\"width:36px;height:36px;" ++
    "background:linear-gradient(135deg,#34d399,#059669);border-radius:10px;" ++
    "text-align:center;vertical-align:middle;font-size:18px;line-height:36px;" ++
    "\">&#128737;</td>\n                    " ++
    "<td style=\"padding-left:10px;color:#ffffff;font-size:16px;font-weight:700;" ++
    "font-family:-apple-system,BlinkMacSystemFont,'Segoe UI',Roboto,sans-serif;" ++
    "\">"

def beforePill : String :=
  " Alert</td>\n                  " ++
    "</tr>\n                " ++
    "</table>\n              " ++
    "</td>\n            " ++
    "</tr>\n            " ++
    "<tr>\n              " ++
    "<td style=\"padding:20px 32px 0 32px;\">\n                "

def beforeGeography : String :=
  "<span style=\"display:inline-block;margin-left:8px;color:#94a3b8;" ++
    "font-size:13px;font-family:-apple-system,BlinkMacSystemFont,'Segoe UI'," ++
    "Roboto,sans-serif;\">"

def beforeRest : String :=
  "</span>\n              " ++
    "</td>\n            " ++
    "</tr>\n            " ++
    "<tr>\n              " ++
    "<td style=\"padding:16px 32px 24px 32px;color:#cbd5e1;font-size:14px;" ++
    "line-height:22px;font-family:-apple-system,BlinkMacSystemFont,'Segoe UI'," ++
    "Roboto,sans-serif;\">\n                "

def beforeFooter : String :=
  "\n              " ++
    "</td>\n            " ++
    "</tr>\n            " ++
    "<tr>\n              " ++
    "<td style=\"padding:20px 32px;border-top:1px solid rgba(255,255,255,0.06);" ++
    "text-align:center;color:#64748b;font-size:12px;font-family:-apple-system," ++
    "BlinkMacSystemFont,'Segoe UI',Roboto,sans-serif;\">\n                "

def beforeYear : String :=
  " &middot; Privacy-first civic-protection platform<br/>\n                " ++
    "&copy; "

def afterFooter : String :=
  "\n              " ++
    "</td>\n            " ++
    "</tr>\n          " ++
    "</table>\n        " ++
    "</td>\n      " ++
    "</tr>\n    " ++
    "</table>\n  " ++
    "</body>\n" ++
    "</html>"

/-- The template with its texts put in. -/
def document (year : Nat) (pill brandName geography rest : String) : String :=
  beforeBrand ++ brandName ++ beforePill ++ pill ++ beforeGeography ++ geography ++ beforeRest ++
    rest ++ beforeFooter ++ brandName ++ beforeYear ++ toString year ++ " " ++ brandName ++ afterFooter

def alertHtml (seconds : Nat) (body brandName : String) : String :=
  let (header, rest) := splitHeader body
  let (label, geography) := parseHeader header
  let pill := match label with
    | some label => severityPill (severityColor label) (escapeHtml label)
    | none => ""
  document (currentYear seconds) pill (escapeHtml brandName) (escapeHtml geography)
    (replace (escapeHtml (trim rest)) '\n' "<br/>")

end ResendEmailChannel

end SafeCameroon
