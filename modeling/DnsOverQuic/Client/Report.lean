import DnsOverQuic.Dns.Presentation

/-!
# The report of a response

A response is reported line by line: a line on the header, the questions under
a title, and each section that has records under a title of its own.
-/

namespace DnsOverQuic.Client.Report

open Text Dns

/-- The flags that are set, each behind a space. -/
def flagsText
    (header : Header) :
    List Char :=
  (if header.authoritative then " aa".toList else []) ++
    (if header.truncated then " tc".toList else []) ++
    (if header.recursionDesired then " rd".toList else []) ++
    (if header.recursionAvailable then " ra".toList else [])

/-- The line on the header. -/
def headerLine
    (header : Header) :
    List Char :=
  ";; id: ".toList ++ Decimal.numeral header.id.toNat ++ "  rcode: ".toList ++
    header.responseCode.text.toList ++ "  flags:".toList ++ flagsText header

/-- The title of a part of the report. -/
def title
    (word : String) :
    List Char :=
  ";; ".toList ++ word.toList ++ " SECTION:".toList

/-- The items of a section of records; none if it is empty. -/
def sectionItems
    (word : String) :
    List Record → List (List Char)
  | [] => []
  | records => title word :: records.map Record.text

/-- The items of the report, in order. -/
def items
    (response : Message) :
    List (List Char) :=
  headerLine response.header :: title "QUESTION" :: response.questions.map Question.text ++
    sectionItems "ANSWER" response.answers ++
    sectionItems "AUTHORITY" response.authorities ++
    sectionItems "ADDITIONAL" response.additionals

/-- The report: each item and the end of its line. -/
def text
    (response : Message) :
    List Char :=
  (items response).flatMap (· ++ ['\n'])

end DnsOverQuic.Client.Report
