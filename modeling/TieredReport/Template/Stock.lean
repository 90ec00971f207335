/-
# Stock markup

A section without markup of its own takes the stock markup of its kind. The
enterprise tier has all kinds but the custom one; the professional tier lacks
benchmarks and scenarios, and the two tiers open differently. In the texts
below `⟦` and `⟧` stand for the double braces of a tag.

Key definitions: `Stock.braced`, `Stock.markup?`.
-/
import TieredReport.Template.Basic

namespace TieredReport.Stock

/-- A text with double braces in place of `⟦` and `⟧`. -/
def braced (s : String) : String :=
  String.ofList (s.toList.flatMap fun c =>
    if c = '⟦' then ['{', '{'] else if c = '⟧' then ['}', '}'] else [c])

/-- The opening section. -/
def executiveSummary : String := braced r#"<section class="executive-summary">
  <h2>⟦metadata.title⟧</h2>
  <p>Prepared for ⟦business_data.company_name⟧ on ⟦formatDate metadata.report_date "MMMM D, YYYY"⟧.</p>
  ⟦#if business_data.valuation.estimated_value⟧
  <p class="headline">Estimated value: <strong>⟦formatCurrency business_data.valuation.estimated_value⟧</strong></p>
  ⟦/if⟧
  ⟦#if business_data.summary⟧<p>⟦business_data.summary⟧</p>⟦/if⟧
</section>"#

/-- Facts about the company. -/
def companyOverview : String := braced r#"<section class="company-overview">
  <h2>⟦business_data.company_name⟧</h2>
  <dl>
    <dt>Industry</dt><dd>⟦business_data.industry⟧</dd>
    <dt>Founded</dt><dd>⟦business_data.founded_year⟧</dd>
    <dt>Employees</dt><dd>⟦formatNumber business_data.employee_count⟧</dd>
  </dl>
  ⟦#if business_data.description⟧<p>⟦business_data.description⟧</p>⟦/if⟧
</section>"#

/-- Figures of the year and their history. -/
def financialAnalysis : String := braced r#"<section class="financial-analysis">
  <table>
    <tr><th>Revenue</th><td>⟦formatCurrency business_data.financials.revenue⟧</td></tr>
    <tr><th>EBITDA</th><td>⟦formatCurrency business_data.financials.ebitda⟧</td></tr>
    <tr><th>Net income</th><td>⟦formatCurrency business_data.financials.net_income⟧</td></tr>
    <tr><th>Gross margin</th><td>⟦formatPercentage business_data.financials.gross_margin⟧</td></tr>
  </table>
  ⟦#each business_data.financials.history⟧
  <p>⟦this.year⟧: ⟦formatCurrency this.revenue⟧</p>
  ⟦/each⟧
</section>"#

/-- The estimated value and its range. -/
def valuationSummary : String := braced r#"<section class="valuation-summary">
  <p>Estimated value: <strong>⟦formatCurrency business_data.valuation.estimated_value⟧</strong></p>
  <p>Range: ⟦formatCurrency business_data.valuation.low⟧ to ⟦formatCurrency business_data.valuation.high⟧</p>
  ⟦#if business_data.valuation.confidence⟧
  <p>Confidence: ⟦formatPercentage business_data.valuation.confidence⟧</p>
  ⟦/if⟧
</section>"#

/-- The methods of valuation and their weights. -/
def valuationMethods : String := braced r#"<section class="valuation-methods">
  ⟦#each business_data.valuation.methods⟧
  <div class="method">
    <h3>⟦this.name⟧</h3>
    <p>⟦formatCurrency this.value⟧ (weight ⟦formatPercentage this.weight⟧)</p>
  </div>
  ⟦else⟧
  <p>No valuation methods were applied.</p>
  ⟦/each⟧
</section>"#

/-- The market and the competitors. -/
def marketAnalysis : String := braced r#"<section class="market-analysis">
  <p>Market size: ⟦formatCurrency business_data.market.size⟧</p>
  <p>Growth rate: ⟦formatPercentage business_data.market.growth_rate⟧</p>
  ⟦#each business_data.market.competitors⟧<p>⟦this⟧</p>⟦/each⟧
</section>"#

/-- The risks. -/
def riskAssessment : String := braced r#"<section class="risk-assessment">
  <ul>
  ⟦#each business_data.risks⟧
    <li class="risk-⟦lowercase this.level⟧"><strong>⟦capitalize this.level⟧</strong>: ⟦this.description⟧</li>
  ⟦else⟧
    <li>No material risks identified.</li>
  ⟦/each⟧
  </ul>
</section>"#

/-- The recommendations. -/
def recommendations : String := braced r#"<section class="recommendations">
  <ol>
  ⟦#each business_data.recommendations⟧<li>⟦this⟧</li>⟦/each⟧
  </ol>
</section>"#

/-- For whom and by whom the report was made. -/
def appendix : String := braced r#"<section class="appendix">
  <p>Report generated for ⟦metadata.prepared_for⟧ by ⟦metadata.prepared_by⟧.</p>
  ⟦#if metadata.disclaimer⟧<p class="disclaimer">⟦metadata.disclaimer⟧</p>⟦/if⟧
</section>"#

/-- The company beside its industry. -/
def industryBenchmarks : String := braced r#"<section class="industry-benchmarks">
  <table>
  ⟦#each enterprise_data.benchmarks⟧
    <tr><th>⟦this.metric⟧</th><td>⟦formatNumber this.company 2⟧</td><td>⟦formatNumber this.industry_median 2⟧</td></tr>
  ⟦/each⟧
  </table>
</section>"#

/-- The scenarios and their probabilities. -/
def scenarioAnalysis : String := braced r#"<section class="scenario-analysis">
  ⟦#each enterprise_data.scenarios⟧
  <div class="scenario">
    <h3>⟦capitalize this.name⟧</h3>
    <p>Value: ⟦formatCurrency this.value⟧, probability ⟦formatPercentage this.probability⟧</p>
  </div>
  ⟦/each⟧
</section>"#

/-- The opening section of the enterprise tier. -/
def enterpriseSummary : String := braced r#"<section class="executive-summary enterprise">
  <h2>⟦metadata.title⟧</h2>
  <p>Prepared for ⟦business_data.company_name⟧ on ⟦formatDate metadata.report_date "MMMM D, YYYY"⟧.</p>
  <p class="headline">Estimated value: <strong>⟦formatCurrency business_data.valuation.estimated_value⟧</strong></p>
  ⟦#if enterprise_data.strategic_summary⟧<p>⟦enterprise_data.strategic_summary⟧</p>⟦/if⟧
  ⟦#if enterprise_data.scenarios⟧<p>Scenario modelling included.</p>⟦/if⟧
</section>"#

/-- The stock markup for a kind of section, if the tier has one. -/
def markup? : Tier → SectionKind → Option String
  | _, .custom => none
  | .professional, .industryBenchmarks => none
  | .professional, .scenarioAnalysis => none
  | .enterprise, .industryBenchmarks => some industryBenchmarks
  | .enterprise, .scenarioAnalysis => some scenarioAnalysis
  | .enterprise, .executiveSummary => some enterpriseSummary
  | .professional, .executiveSummary => some executiveSummary
  | _, .companyOverview => some companyOverview
  | _, .financialAnalysis => some financialAnalysis
  | _, .valuationSummary => some valuationSummary
  | _, .valuationMethods => some valuationMethods
  | _, .marketAnalysis => some marketAnalysis
  | _, .riskAssessment => some riskAssessment
  | _, .recommendations => some recommendations
  | _, .appendix => some appendix

end TieredReport.Stock
